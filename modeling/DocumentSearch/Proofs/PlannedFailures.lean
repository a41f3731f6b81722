import DocumentSearch.Proofs.History
import DocumentSearch.Proofs.Runs

/-!
# A planned failure hits one call

Three things can come to a recorder: a call, the plan of a failure, and the order to forget the log.
A call is logged and uses up the plan, and what it leaves in the store is what the store answers, or
nothing new when it fails.  Whether a failure is planned is told from what came last: the plan itself,
and behind it nothing but orders about the log (`Recorder.failure_after_eq_some_iff`).  In a session
the calls are those of the operations that are not refused, so what a client refuses never comes to
the recorder (`Session.recorder_run`).
-/

namespace DocumentSearch

namespace Recorder

/-- What can come to a recorder. -/
inductive Input
  | call (logged : LoggedCall)
  | failNext (failure : PlannedFailure)
  | clearLog
deriving DecidableEq, Repr

/-- The call that comes with an input. -/
def Input.call? : Input → Option LoggedCall
  | .call logged => some logged
  | .failNext _ | .clearLog => none

/-- The recorder after an input. -/
def receive (recorder : Recorder) : Input → Recorder
  | .call logged => (recorder.answer logged.call).2
  | .failNext failure => recorder.failNext failure
  | .clearLog => recorder.clearLog

/-- The recorder after inputs in order. -/
def after (recorder : Recorder) (inputs : List Input) : Recorder := inputs.foldl receive recorder

/-- Whether inputs end with the plan of a failure, orders about the log apart. -/
def IsPlanned (inputs : List Input) (failure : PlannedFailure) : Prop :=
  ∃ past orders, inputs = past ++ .failNext failure :: orders ∧ ∀ input ∈ orders, input = .clearLog

end Recorder

namespace Session

/-- What comes to the recorder in a turn: the call of an operation that is not refused, or what the
recorder is told. -/
def input? (session : Session) : Turn → Option Recorder.Input
  | .act who action => (action.call? (session.clients who).draft).map .call
  | .failNext failure => some (.failNext failure)
  | .clearLog => some .clearLog

/-- What comes to the recorder in turns in order. -/
def inputs (session : Session) : List Turn → List Recorder.Input
  | [] => []
  | turn :: rest => (session.input? turn).toList ++ (session.take turn).inputs rest

end Session

/-! ## Single calls -/

theorem Store.answer_of_error {kind : Kind} {call : Call kind} {store : Store} {error : Error}
    (failed : (store.answer call).1 = .error error) :
    (store.answer call).2 = store ∧
      ∃ address, call.address? = some address ∧ store.find? address = none ∧
        error = .notFound address.table address.id := by
  cases call with
  | get address | delete address =>
      cases found : store.find? address with
      | some body => simp [answer, found] at failed
      | none =>
          simp only [answer, found, Except.error.injEq] at failed ⊢
          exact ⟨trivial, address, rfl, found, failed.symm⟩
  | update change =>
      cases found : store.find? change.address with
      | some body => simp [answer, found] at failed
      | none =>
          simp only [answer, found, Except.error.injEq] at failed ⊢
          exact ⟨trivial, change.address, rfl, found, failed.symm⟩
  | _ => cases failed

namespace Recorder

theorem log_answer {kind : Kind} (recorder : Recorder) (call : Call kind) :
    (recorder.answer call).2.log = recorder.log ++ [⟨kind, call⟩] := by
  unfold answer
  dsimp only
  split <;> rfl

theorem failure_answer {kind : Kind} (recorder : Recorder) (call : Call kind) :
    (recorder.answer call).2.failure = none := by
  cases due : recorder.failure with
  | some failure => rw [answer_of_failure due]
  | none => rw [answer_of_none due]

/-- A call that fails leaves the store as it is, whether the failure was planned or not. -/
theorem store_answer_of_error {kind : Kind} {recorder : Recorder} {call : Call kind} {error : Error}
    (failed : (recorder.answer call).1 = .error error) :
    (recorder.answer call).2.store = recorder.store := by
  cases due : recorder.failure with
  | some failure => rw [answer_of_failure due]
  | none =>
      rw [answer_of_none due] at failed ⊢
      exact (Store.answer_of_error failed).1

/-! ## Inputs in order -/

theorem after_append (recorder : Recorder) (inputs later : List Input) :
    recorder.after (inputs ++ later) = (recorder.after inputs).after later :=
  List.foldl_append

theorem log_after (recorder : Recorder) {inputs : List Input} (kept : .clearLog ∉ inputs) :
    (recorder.after inputs).log = recorder.log ++ inputs.filterMap Input.call? := by
  induction inputs generalizing recorder with
  | nil => simp [after]
  | cons input rest ih =>
      obtain ⟨first, others⟩ : .clearLog ≠ input ∧ .clearLog ∉ rest := by simpa using kept
      refine (ih (recorder.receive input) others).trans ?_
      cases input with
      | call logged =>
          rw [receive, log_answer, List.append_assoc]
          rfl
      | failNext failure => rfl
      | clearLog => exact absurd rfl first

theorem not_isPlanned_nil (failure : PlannedFailure) : ¬IsPlanned [] failure := by
  rintro ⟨past, orders, empty, _⟩
  simp at empty

/-- The last input decides: it plans the failure, or it is about the log and the failure was planned
before. -/
theorem isPlanned_append_singleton_iff {inputs : List Input} {input : Input} {failure : PlannedFailure} :
    IsPlanned (inputs ++ [input]) failure ↔
      input = .failNext failure ∨ input = .clearLog ∧ IsPlanned inputs failure := by
  constructor
  · rintro ⟨past, orders, same, clearing⟩
    rcases orders.eq_nil_or_concat' with rfl | ⟨earlier, last, rfl⟩
    · obtain ⟨_, equal⟩ := List.append_inj' same rfl
      exact .inl (List.cons.inj equal).1
    · rw [← List.cons_append, ← List.append_assoc] at same
      obtain ⟨rfl, equal⟩ := List.append_inj' same rfl
      have about : last = .clearLog := clearing last (by simp)
      exact .inr ⟨(List.cons.inj equal).1.trans about, past, earlier, rfl,
        fun order member => clearing order (List.mem_append_left _ member)⟩
  · rintro (rfl | ⟨rfl, past, orders, rfl, clearing⟩)
    · exact ⟨inputs, [], rfl, fun _ member => nomatch member⟩
    · refine ⟨past, orders ++ [.clearLog], by simp, fun order member => ?_⟩
      obtain earlier | last := List.mem_append.mp member
      · exact clearing order earlier
      · exact List.mem_singleton.mp last

/-- A failure is planned exactly when it was planned last and no call came since. -/
theorem failure_after_eq_some_iff {inputs : List Input} {failure : PlannedFailure} :
    (empty.after inputs).failure = some failure ↔ IsPlanned inputs failure := by
  induction inputs using List.reverseRecOn with
  | nil => exact iff_of_false (fun planned => nomatch planned) (not_isPlanned_nil failure)
  | append_singleton inputs input ih =>
      rw [after_append, isPlanned_append_singleton_iff, ← ih]
      change ((empty.after inputs).receive input).failure = _ ↔ _
      cases input with
      | call logged => simp [receive, failure_answer]
      | failNext next => simp [receive, failNext]
      | clearLog => simp [receive, clearLog]

end Recorder

/-! ## Sessions -/

theorem Operation.isRefusal_of_plan {kind : Kind} {operation : Operation kind} {draft : Draft}
    {error : Error} (named : draft.table ≠ some "") (planned : operation.plan draft = .error error) :
    error.isRefusal = true := by
  obtain ⟨missing, _⟩ | ⟨_, ⟨cause, unusable, _⟩ | ⟨call, ready, _⟩⟩ := operation.plan_cases named
  · cases missing.symm.trans planned
    rfl
  · cases unusable.symm.trans planned
    rfl
  · cases ready.symm.trans planned

namespace Session

theorem recorder_take (session : Session) (turn : Turn) :
    (session.take turn).recorder = session.recorder.after (session.input? turn).toList := by
  cases turn with
  | failNext failure | clearLog => rfl
  | act who action =>
      refine (Action.state_step Recorder.engine action (session.clients who)
        session.recorder).trans ?_
      rw [input?]
      cases action.call? (session.clients who).draft <;> rfl

/-- A session leaves its recorder as the inputs do that come to it. -/
theorem recorder_run (session : Session) (turns : List Turn) :
    (session.run turns).recorder = session.recorder.after (session.inputs turns) := by
  induction turns generalizing session with
  | nil => rfl
  | cons turn rest ih =>
      rw [inputs, Recorder.after_append, ← recorder_take]
      exact ih (session.take turn)

/-- An operation is refused and nothing comes to the recorder, or its call does and is answered. -/
theorem perform_inputs {session : Session} {who : Nat}
    (named : (session.clients who).draft.table ≠ some "") {kind : Kind} (operation : Operation kind)
    (seconds : Binary64) :
    let turn := Turn.act who (.perform kind operation seconds)
    let result := session.answerTo who operation seconds
    (∃ error, operation.plan (session.clients who).draft = .error error ∧
        error.isRefusal = true ∧ result = .error error ∧
        (session.take turn).recorder = session.recorder ∧ session.input? turn = none) ∨
      ∃ call, operation.plan (session.clients who).draft = .ok call ∧
        (result, (session.take turn).recorder) = session.recorder.answer call ∧
        session.input? turn = some (.call ⟨kind, call⟩) := by
  intro turn result
  cases planned : operation.plan (session.clients who).draft with
  | error error =>
      refine .inl ⟨error, rfl, Operation.isRefusal_of_plan named planned, ?_, ?_, ?_⟩
      · simp only [result, answerTo, Client.perform, planned]
      · simp only [turn, take, Action.step, Client.perform, planned]
      · simp only [turn, input?, Action.call?, planned, Option.map_none]
  | ok call =>
      refine .inr ⟨call, rfl, ?_, ?_⟩
      · simp only [result, turn, answerTo, take, Action.step, Client.perform, planned]
        rfl
      · simp only [turn, input?, Action.call?, planned, Option.map_some]

theorem inputs_append_singleton (session : Session) (turns : List Turn) (turn : Turn) :
    session.inputs (turns ++ [turn]) =
      session.inputs turns ++ ((session.run turns).input? turn).toList := by
  induction turns generalizing session with
  | nil => exact List.append_nil _
  | cons first rest ih =>
      rw [List.cons_append, inputs, ih, ← List.append_assoc]
      rfl

end Session

/-- Every call that comes to a recorder is logged, in order and with all that it carries, and leaves
no failure planned.  The failure that was planned last hits the first call behind its plan, of
whatever kind, and no other; a call that is not hit is answered by the store, and fails only when
there is no document at its address.  A failed call leaves the store as it is.  In a session an
operation that is refused is nothing to the recorder, and any other one is its call. -/
theorem planned_failure_hits_one_call :
    (∀ (inputs : List Recorder.Input) (kind : Kind) (call : Call kind),
      let now := Recorder.empty.after inputs
      let result := (now.answer call).1
      let next := (now.answer call).2
      next = Recorder.empty.after (inputs ++ [.call ⟨kind, call⟩]) ∧
      next.log = now.log ++ [⟨kind, call⟩] ∧
      (∀ failure, ¬Recorder.IsPlanned (inputs ++ [.call ⟨kind, call⟩]) failure) ∧
      ((∃ error, result = .error error) → next.store = now.store) ∧
      (∀ failure, Recorder.IsPlanned inputs failure →
        result = .error (.transport failure.status failure.message)) ∧
      ((∀ failure, ¬Recorder.IsPlanned inputs failure) →
        (result, next.store) = now.store.answer call ∧
        ∀ error, result = .error error →
          ∃ address, call.address? = some address ∧ now.store.find? address = none ∧
            error = .notFound address.table address.id)) ∧
    (∀ past later : List Recorder.Input, .clearLog ∉ later →
      (Recorder.empty.after (past ++ later)).log =
        (Recorder.empty.after past).log ++ later.filterMap Recorder.Input.call?) ∧
    ∀ (turns : List Turn) (who : Nat) (kind : Kind) (operation : Operation kind)
      (seconds : Binary64),
      let now := Session.start.run turns
      let turn := Turn.act who (.perform kind operation seconds)
      let result := now.answerTo who operation seconds
      let inputs := Session.start.inputs turns
      now.recorder = Recorder.empty.after inputs ∧
      ((∃ error, operation.plan (now.clients who).draft = .error error ∧
          error.isRefusal = true ∧ result = .error error ∧
          (now.take turn).recorder = now.recorder ∧
          Session.start.inputs (turns ++ [turn]) = inputs) ∨
        ∃ call, operation.plan (now.clients who).draft = .ok call ∧
          (result, (now.take turn).recorder) = now.recorder.answer call ∧
          Session.start.inputs (turns ++ [turn]) = inputs ++ [.call ⟨kind, call⟩]) := by
  refine ⟨fun inputs kind call => ?_, fun past later kept => ?_,
    fun turns who kind operation seconds => ?_⟩
  · intro now result next
    refine ⟨(Recorder.after_append Recorder.empty inputs [.call ⟨kind, call⟩]).symm,
      Recorder.log_answer .., ?_, fun ⟨error, failed⟩ => Recorder.store_answer_of_error failed, ?_, ?_⟩
    · intro failure planned
      simp [Recorder.isPlanned_append_singleton_iff] at planned
    · intro failure planned
      have due := Recorder.failure_after_eq_some_iff.mpr planned
      exact congrArg Prod.fst (Recorder.answer_of_failure due call)
    · intro free
      have unplanned : now.failure = none := Option.eq_none_iff_forall_ne_some.mpr fun failure due =>
        free failure (Recorder.failure_after_eq_some_iff.mp due)
      have answered := Recorder.answer_of_none unplanned call
      refine ⟨?_, fun error failed => ?_⟩
      · simp only [result, next, answered]
      · simp only [result, answered] at failed
        exact (Store.answer_of_error failed).2
  · rw [Recorder.after_append, Recorder.log_after _ kept]
  · intro now turn result inputs
    refine ⟨Session.recorder_run .., ?_⟩
    rw [Session.inputs_append_singleton]
    have named := (Session.reachable_clients turns who).table_ne
    obtain ⟨error, planned, refusal, refused, same, silent⟩ | ⟨call, planned, answered, came⟩ :=
      Session.perform_inputs named operation seconds
    · rw [silent]
      exact .inl ⟨error, planned, refusal, refused, same, List.append_nil _⟩
    · rw [came]
      exact .inr ⟨call, planned, answered, rfl⟩

/-- A user is stored, and two failures are planned, with the log forgotten behind them.  An operation
that is refused, a preview and setters follow. -/
def twicePlanned : List Turn :=
  [.act 0 (.set (.table "users")),
    .act 0 (.perform .write (.insert (.ofList
      [("id", .string "7"), ("name", .string "alice")])) (.ofNat 1)),
    .failNext ⟨none, "offline"⟩, .act 1 .preview, .failNext ⟨some 503, "unavailable"⟩, .clearLog,
    .act 0 (.set (.table "users")), .act 0 (.perform .fetch (.find "") (.ofNat 1)),
    .act 1 (.set (.table "users"))]

/-- The removal that follows meets the second failure: the user stays, and only the removal is in the
log.  The next call, which asks about all tables, is answered. -/
theorem planned_failure_hits_one_call_twicePlanned :
    let now := Session.start.run twicePlanned
    let removal := Turn.act 1 (.perform .write (.delete "7") (.ofNat 1))
    let later := Session.start.run (twicePlanned ++ [removal])
    let inputs := Session.start.inputs twicePlanned
    Recorder.IsPlanned inputs ⟨some 503, "unavailable"⟩ ∧
      now.answerTo 1 (.delete "7") (.ofNat 1) = .error (.transport (some 503) "unavailable") ∧
      later.recorder.log = [⟨.write, .delete ⟨"users", "7"⟩⟩] ∧ later.store = now.store ∧
      later.answerTo 0 (.tableInfo []) (.ofNat 1) = (now.store.answer (.getMapping [])).1 := by
  intro now removal later inputs
  obtain ⟨calls, _, sessions⟩ := planned_failure_hits_one_call
  have planned : Recorder.IsPlanned inputs ⟨some 503, "unavailable"⟩ :=
    ⟨inputs.take 2, [.clearLog], rfl, by simp⟩
  obtain ⟨before, ⟨_, refused, _⟩ | ⟨_, removed, answered, came⟩⟩ :=
    sessions twicePlanned 1 .write (.delete "7") (.ofNat 1)
  · cases refused
  cases removed
  obtain ⟨current, ⟨_, refused, _⟩ | ⟨_, described, shown, _⟩⟩ :=
    sessions (twicePlanned ++ [removal]) 0 .mappings (.tableInfo []) (.ofNat 1)
  · cases refused
  cases described
  obtain ⟨_, logged, unplanned, kept, hit, _⟩ := calls inputs .write (.delete ⟨"users", "7"⟩)
  rw [before] at answered
  have failed := (congrArg Prod.fst answered).trans (hit _ planned)
  have left : later.recorder = _ :=
    (congrArg Session.recorder (Session.run_append_singleton ..)).trans (congrArg Prod.snd answered)
  have untouched : later.store = now.store := by
    rw [Session.store, Session.store, left, before]
    exact kept ⟨_, hit _ planned⟩
  refine ⟨planned, failed, left ▸ logged, untouched, ?_⟩
  obtain ⟨_, _, _, _, _, free⟩ :=
    calls (Session.start.inputs (twicePlanned ++ [removal])) .mappings (.getMapping [])
  rw [← current, came] at free
  rw [← untouched]
  exact (congrArg Prod.fst shown).trans (congrArg Prod.fst (free unplanned).1)

end DocumentSearch
