import DocumentSearch.Client
import DocumentSearch.Memory.Recorder
import DocumentSearch.Proofs.Checks

/-!
# Queries do not leak into each other

What a client shows of the query it is putting together is watched from outside: the results of
setters, the previews, and what reaches the engine during an operation.  All of this is told from
the draft alone (`trace_eq`), whatever the engine answers and whatever was counted before.  Since an
operation on the query leaves the empty draft, nothing that happened before it shows later.
-/

namespace DocumentSearch

/-- The engine with the calls that it got beside its state, oldest first. -/
def Engine.watched {σ : Type} (engine : Engine σ) : Engine (σ × List LoggedCall) where
  answer call state :=
    let (result, after) := engine.answer call state.1
    (result, after, state.2 ++ [LoggedCall.mk _ call])

/-- What an operation submits: the calls that reach the engine, and if none does, the error in its
place. -/
structure Submission where
  calls : List LoggedCall
  refusal : Option Error
deriving DecidableEq, Repr

/-- What an action shows, the answers of the engine apart. -/
inductive Event
  | set (result : Except InvalidInput Unit)
  | reset
  | preview (result : Except Error Search)
  | operation (terminal : Bool) (submission : Submission)

/-- The submission of an operation on the drafted query. -/
def Event.terminal? : Event → Option Submission
  | .operation true submission => some submission
  | _ => none

/-- What an operation of a client submits. -/
def Client.submission {σ : Type} {kind : Kind} (engine : Engine σ) (operation : Operation kind)
    (seconds : Binary64) (client : Client) (state : σ) : Submission :=
  let (result, _, _, calls) := client.perform engine.watched operation seconds (state, [])
  { calls
    refusal :=
      match calls, result with
      | [], .error error => some error
      | _, _ => none }

namespace Action

/-- What an action shows. -/
def event {σ : Type} (engine : Engine σ) (action : Action) (client : Client) (state : σ) : Event :=
  match action with
  | .set setter => .set ((client.set setter).map fun _ => ())
  | .reset => .reset
  | .preview => .preview client.compile
  | .perform _ operation seconds =>
      .operation operation.isTerminal (client.submission engine operation seconds state)

/-- What actions in order show. -/
def trace {σ : Type} (engine : Engine σ) : List Action → Client → σ → List Event
  | [], _, _ => []
  | action :: rest, client, state =>
      let (next, after) := action.step engine client state
      action.event engine client state :: trace engine rest next after

/-- What the operations on drafted queries submit during actions in order. -/
def submissions {σ : Type} (engine : Engine σ) (actions : List Action) (client : Client)
    (state : σ) : List Submission :=
  (trace engine actions client state).filterMap Event.terminal?

/-- Whether an action leaves the query behind it: an operation on the drafted query, or a reset. -/
def endsQuery : Action → Bool
  | .reset => true
  | .perform _ operation _ => operation.isTerminal
  | .set _ | .preview => false

/-- The action without the time it takes. -/
def untimed : Action → Action
  | .perform kind operation _ => .perform kind operation (Binary64.zero false)
  | action => action

/-- Whether an action is no part of a query: a preview, an operation on tables, or a setter that the
client refuses. -/
def isIdle (client : Client) : Action → Bool
  | .set setter => !(client.set setter).isOk
  | .reset => false
  | .preview => true
  | .perform _ operation _ => !operation.isTerminal

/-- The actions that are not idle when the client comes to them. -/
def effective {σ : Type} (engine : Engine σ) : List Action → Client → σ → List Action
  | [], _, _ => []
  | action :: rest, client, state =>
      let (next, after) := action.step engine client state
      if action.isIdle client then effective engine rest next after
      else action :: effective engine rest next after

end Action

/-! ## Traces told from drafts -/

/-- What an operation submits for a draft. -/
def Operation.submission {kind : Kind} (operation : Operation kind) (draft : Draft) : Submission :=
  match operation.plan draft with
  | .ok call => ⟨[LoggedCall.mk kind call], none⟩
  | .error error => ⟨[], some error⟩

theorem Client.submission_eq {σ : Type} {kind : Kind} (engine : Engine σ)
    (operation : Operation kind) (seconds : Binary64) (client : Client) (state : σ) :
    client.submission engine operation seconds state = operation.submission client.draft := by
  unfold submission perform Operation.submission
  cases operation.plan client.draft with
  | error error => rfl
  | ok call => rfl

namespace Action

/-- The draft after an action. -/
def draftAfter (action : Action) (draft : Draft) : Draft :=
  match action with
  | .set setter =>
      match setter.apply draft with
      | .ok next => next
      | .error _ => draft
  | .reset => .empty
  | .preview => draft
  | .perform _ operation _ => operation.leaves draft

/-- What an action shows of a draft. -/
def eventOn (action : Action) (draft : Draft) : Event :=
  match action with
  | .set setter => .set ((setter.apply draft).map fun _ => ())
  | .reset => .reset
  | .preview => .preview draft.compile
  | .perform _ operation _ => .operation operation.isTerminal (operation.submission draft)

/-- What actions in order show, starting from a draft. -/
def traceOn : List Action → Draft → List Event
  | [], _ => []
  | action :: rest, draft => action.eventOn draft :: traceOn rest (action.draftAfter draft)

theorem draft_step {σ : Type} (engine : Engine σ) (action : Action) (client : Client) (state : σ) :
    (action.step engine client state).1.draft = action.draftAfter client.draft := by
  cases action with
  | set setter =>
      simp only [step, draftAfter, Client.set]
      cases setter.apply client.draft with
      | error cause => rfl
      | ok next => rfl
  | reset => rfl
  | preview => rfl
  | perform kind operation seconds =>
      simp only [step, draftAfter, Client.perform]
      cases operation.plan client.draft with
      | error error => rfl
      | ok call => rfl

theorem event_eq {σ : Type} (engine : Engine σ) (action : Action) (client : Client) (state : σ) :
    action.event engine client state = action.eventOn client.draft := by
  cases action with
  | set setter =>
      simp only [event, eventOn, Client.set]
      cases setter.apply client.draft with
      | error cause => rfl
      | ok next => rfl
  | reset => rfl
  | preview => rfl
  | perform kind operation seconds =>
      rw [event, Client.submission_eq]
      rfl

/-- What actions show depends on the draft they start from, and neither on the engine nor on what was
counted. -/
theorem trace_eq {σ : Type} (engine : Engine σ) (actions : List Action) (client : Client)
    (state : σ) : trace engine actions client state = traceOn actions client.draft := by
  induction actions generalizing client state with
  | nil => rfl
  | cons action rest ih =>
      rw [traceOn, ← draft_step engine action client state, ← event_eq engine action client state,
        ← ih]
      rfl

theorem run_append {σ : Type} (engine : Engine σ) (left right : List Action) (client : Client)
    (state : σ) :
    run engine (left ++ right) client state =
      run engine right (run engine left client state).1 (run engine left client state).2 := by
  induction left generalizing client state with
  | nil => rfl
  | cons action rest ih => exact ih ..

theorem draftAfter_of_endsQuery {action : Action} (ends : action.endsQuery = true) (draft : Draft) :
    action.draftAfter draft = .empty := by
  cases action with
  | set setter => cases ends
  | reset => rfl
  | preview => cases ends
  | perform kind operation seconds => exact if_pos ends

theorem draft_run_of_endsQuery {σ : Type} (engine : Engine σ) (past : List Action) {last : Action}
    (ends : last.endsQuery = true) (client : Client) (state : σ) :
    (run engine (past ++ [last]) client state).1.draft = .empty := by
  rw [run_append]
  change (last.step engine _ _).1.draft = _
  rw [draft_step, draftAfter_of_endsQuery ends]

theorem traceOn_untimed (actions : List Action) (draft : Draft) :
    traceOn (actions.map untimed) draft = traceOn actions draft := by
  induction actions generalizing draft with
  | nil => rfl
  | cons action rest ih =>
      rw [List.map_cons, traceOn, traceOn, ih]
      cases action <;> rfl

theorem draftAfter_of_isIdle {client : Client} {action : Action} (idle : action.isIdle client = true) :
    action.draftAfter client.draft = client.draft := by
  cases action with
  | set setter =>
      simp only [isIdle, Client.set] at idle
      simp only [draftAfter]
      cases applied : setter.apply client.draft with
      | error cause => rfl
      | ok next => simp [applied, Except.map, Except.isOk, Except.toBool] at idle
  | reset => cases idle
  | preview => rfl
  | perform kind operation seconds =>
      have administrative : operation.isTerminal = false := by simpa [isIdle] using idle
      simp [draftAfter, Operation.leaves, administrative]

theorem terminal?_eventOn_of_isIdle {client : Client} {action : Action}
    (idle : action.isIdle client = true) (draft : Draft) :
    (action.eventOn draft).terminal? = none := by
  cases action with
  | set setter => rfl
  | reset => rfl
  | preview => rfl
  | perform kind operation seconds =>
      have administrative : operation.isTerminal = false := by simpa [isIdle] using idle
      simp [eventOn, administrative, Event.terminal?]

theorem traceOn_append {σ : Type} (engine : Engine σ) (before after : List Action)
    (client : Client) (state : σ) :
    traceOn (before ++ after) client.draft =
      traceOn before client.draft ++ traceOn after (run engine before client state).1.draft := by
  induction before generalizing client state with
  | nil => rfl
  | cons action rest ih =>
      have later := ih (action.step engine client state).1 (action.step engine client state).2
      rw [draft_step] at later
      rw [List.cons_append, traceOn, later]
      rfl

/-- One idle action anywhere in a run does not change what is submitted. -/
theorem submissions_insert_idle {σ : Type} (engine : Engine σ) (before after : List Action)
    {action : Action} (client : Client) (state : σ)
    (idle : action.isIdle (run engine before client state).1 = true) :
    submissions engine (before ++ action :: after) client state =
      submissions engine (before ++ after) client state := by
  rw [submissions, submissions, trace_eq, trace_eq, traceOn_append engine before _ client state,
    traceOn_append engine before _ client state, List.filterMap_append, List.filterMap_append,
    traceOn, List.filterMap_cons_none (terminal?_eventOn_of_isIdle idle _),
    draftAfter_of_isIdle idle]

/-- Idle actions can be left out of a run without changing what is submitted. -/
theorem submissions_eq_effective {σ : Type} (engine : Engine σ) (actions : List Action)
    (client : Client) (state : σ) :
    submissions engine actions client state =
      (traceOn (effective engine actions client state) client.draft).filterMap Event.terminal? := by
  rw [submissions, trace_eq]
  induction actions generalizing client state with
  | nil => rfl
  | cons action rest ih =>
      have later := ih (action.step engine client state).1 (action.step engine client state).2
      rw [draft_step] at later
      rw [effective]
      dsimp only
      split
      · rename_i idle
        rw [traceOn, List.filterMap_cons_none (terminal?_eventOn_of_isIdle idle _), later,
          draftAfter_of_isIdle idle]
      · rw [traceOn, traceOn, List.filterMap_cons, List.filterMap_cons, later]

/-- Two clients on any two engines that have just ended a query, whatever they did before, show the
same from then on when the same is asked of them.  Previews, operations on tables and refused setters
change nothing that is submitted for queries.  A search submits what a preview shows. -/
theorem queries_isolated {σ τ : Type} (left : Engine σ) (right : Engine τ) (leftState : σ)
    (rightState : τ) :
    (∀ (leftPast rightPast leftLater rightLater : List Action) (leftLast rightLast : Action),
      leftLast.endsQuery = true → rightLast.endsQuery = true →
      leftLater.map untimed = rightLater.map untimed →
      let leftNow := run left (leftPast ++ [leftLast]) Client.new leftState
      let rightNow := run right (rightPast ++ [rightLast]) Client.new rightState
      trace left leftLater leftNow.1 leftNow.2 = trace right rightLater rightNow.1 rightNow.2) ∧
    (∀ (client : Client) (actions others : List Action),
      (effective left actions client leftState).map untimed =
        (effective right others client rightState).map untimed →
      submissions left actions client leftState = submissions right others client rightState) ∧
    (∀ (client : Client) (before after : List Action) (action : Action),
      action.isIdle (run left before client leftState).1 = true →
      submissions left (before ++ action :: after) client leftState =
        submissions left (before ++ after) client leftState) ∧
    ∀ (client : Client) (seconds : Binary64),
      client.submission left .get seconds leftState =
        match client.compile with
        | .ok search => ⟨[LoggedCall.mk .hits (.search search)], none⟩
        | .error error => ⟨[], some error⟩ := by
  refine ⟨?_, ?_, ?_, ?_⟩
  · intro leftPast rightPast leftLater rightLater leftLast rightLast leftEnds rightEnds same
    dsimp only
    rw [trace_eq, trace_eq, draft_run_of_endsQuery left leftPast leftEnds,
      draft_run_of_endsQuery right rightPast rightEnds, ← traceOn_untimed leftLater, same,
      traceOn_untimed]
  · intro client actions others same
    rw [submissions_eq_effective, submissions_eq_effective, ← traceOn_untimed (effective left _ _ _),
      same, traceOn_untimed]
  · intro client before after action idle
    exact submissions_insert_idle left before after client leftState idle
  · intro client seconds
    rw [Client.submission_eq]
    simp only [Operation.submission, Operation.plan, Client.compile]
    cases client.draft.compile with
    | error error => rfl
    | ok search => rfl

/-- A search that the engine refused and a fetch without a table leave clients that search alike; a
preview, a refused setter and a look at the tables in between do not show. -/
theorem queries_isolated_after_failures :
    let get := Action.perform .hits .get (.ofNat 1)
    let find := Action.perform .fetch (.find "1") (.ofNat 2)
    let failing := Recorder.empty.failNext ⟨some 503, "engine unavailable"⟩
    let past := [.set (.table "users"), .set (.must "name" (.string "alice"))]
    let later := [.set (.table "users"), get]
    let padded := [.set (.table "users"), .preview, .set (.page 0 5),
      .perform .mappings (.tableInfo []) (.ofNat 3), get]
    let searching := run Recorder.engine (past ++ [get]) Client.new failing
    let fetching := run Recorder.engine ([] ++ [find]) Client.new Recorder.empty
    trace Recorder.engine later searching.1 searching.2 =
        trace Recorder.engine later fetching.1 fetching.2 ∧
      submissions Recorder.engine padded Client.new failing =
        submissions Recorder.engine later Client.new Recorder.empty := by
  intro get find failing past later padded searching fetching
  have isolated := queries_isolated Recorder.engine Recorder.engine failing Recorder.empty
  exact ⟨isolated.1 past [] later later get find rfl rfl rfl,
    isolated.2.1 Client.new padded later rfl⟩

end Action

end DocumentSearch
