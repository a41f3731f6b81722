import DocumentSearch.Http.Engine
import DocumentSearch.Proofs.Payloads
import DocumentSearch.Proofs.WellFormed

/-!
# Refusals come before calls

An operation either is refused by the client, and then nothing is sent, or makes one call, and then
its result is what the engine answers.  The engines of this library never answer with a refusal, so
the two cases can be told apart by the result.  Which operations are refused is told from the draft
and the arguments alone (`plan_eq_checked`).
-/

namespace DocumentSearch

/-- The engines of this library: the recording one, and clusters of nodes on any transport. -/
inductive Engine.IsBuiltIn : {σ : Type} → Engine σ → Prop
  | recorder : IsBuiltIn Recorder.engine
  | cluster {τ : Type} (cluster : Http.Cluster) (transport : Http.Transport τ) :
      IsBuiltIn (cluster.engine transport)

/-- Whether an error is the refusal of a client. -/
def Error.isRefusal : Error → Bool
  | .invalidInput _ | .invalidState _ => true
  | _ => false

namespace Operation

/-- Whether the arguments of an operation cannot be used on the table of a draft.  Documents are
looked at when they are put into the payload. -/
def Unusable {kind : Kind} (operation : Operation kind) (draft : Draft) : Prop :=
  match operation with
  | .get => False
  | .insert document =>
      ∃ table cause, draft.table = some table ∧ Insertion.new table document = .error cause
  | .insertAll documents =>
      ∃ table cause, draft.table = some table ∧ Batch.new table documents = .error cause
  | .find id | .delete id => draft.table ≠ none ∧ id = ""
  | .update id fields => draft.table ≠ none ∧ (id = "" ∨ fields.isEmpty = true)
  | .createTable table schema | .updateTable table schema =>
      table = "" ∨ schema.properties.isEmpty = true ∨ "" ∈ schema.fieldNames
  | .tableInfo tables => "" ∈ tables

end Operation

/-! ## What engines answer -/

theorem Store.isRefusal_of_answer {kind : Kind} {call : Call kind} {store : Store} {error : Error}
    (failed : (store.answer call).1 = .error error) : error.isRefusal = false := by
  cases call with
  | get address | delete address =>
      simp only [answer] at failed
      split at failed
      · cases failed
      · cases failed
        rfl
  | update change =>
      simp only [answer] at failed
      split at failed
      · cases failed
      · cases failed
        rfl
  | _ => cases failed

theorem Recorder.isRefusal_of_answer {kind : Kind} {call : Call kind} {recorder : Recorder}
    {error : Error} (failed : (recorder.answer call).1 = .error error) :
    error.isRefusal = false := by
  unfold answer at failed
  dsimp only at failed
  split at failed
  · cases failed
    rfl
  · exact Store.isRefusal_of_answer failed

theorem Http.Response.isRefusal_of_interpret {kind : Kind} {call : Call kind} {response : Response}
    {error : Error} (failed : response.interpret call = .error error) :
    error.isRefusal = false := by
  obtain ⟨_, result⟩ | ⟨address, _, _, _, result⟩ | ⟨_, _, result⟩ := response.interpret_cases call
  · rw [result] at failed
    cases decoded : kind.ofBytes response.body with
    | error fault =>
        rw [decoded] at failed
        cases failed
        rfl
    | ok answer =>
        rw [decoded] at failed
        cases failed
  · rw [result] at failed
    cases failed
    rfl
  · rw [result] at failed
    cases failed
    rfl

/-- An engine of this library never refuses a call in the way of a client. -/
theorem Engine.IsBuiltIn.isRefusal_of_answer {σ : Type} {engine : Engine σ}
    (builtIn : engine.IsBuiltIn) {kind : Kind} {call : Call kind} {state : σ} {error : Error}
    (failed : (engine.answer call state).1 = .error error) : error.isRefusal = false := by
  cases builtIn with
  | recorder => exact Recorder.isRefusal_of_answer failed
  | cluster cluster transport =>
      simp only [Http.Cluster.engine, Http.Cluster.answer] at failed
      split at failed
      · exact Http.Response.isRefusal_of_interpret failed
      · cases failed
        rfl

/-! ## Plans -/

theorem Client.Reachable.table_ne {σ : Type} {engine : Engine σ} {client : Client}
    (reached : client.Reachable engine) : client.draft.table ≠ some "" :=
  reached.isWellFormed.named

namespace Operation

variable {kind : Kind} {operation : Operation kind} {draft : Draft}

theorem checkSchema_eq_ok_iff {table : String} {schema : TableSchema} {passed : Unit} :
    checkSchema table schema = .ok passed ↔
      table ≠ "" ∧ schema.properties.isEmpty = false ∧ "" ∉ schema.fieldNames := by
  unfold checkSchema checkTable TableSchema.validate
  by_cases unnamed : table = ""
  · simp [unnamed]
  · cases bare : schema.properties.isEmpty <;> simp [unnamed]

theorem exists_map_eq_error_iff {α β : Type} {outcome : Except InvalidInput α} {change : α → β} :
    (∃ cause, outcome.map change = .error cause) ↔ ∃ cause, outcome = .error cause :=
  exists_congr fun _ => map_eq_error

theorem checked_eq_ok_iff {α : Type} {outcome : Except InvalidInput α} {value : α} :
    checked outcome = .ok value ↔ outcome = .ok value := by
  cases outcome <;> simp [checked, Except.mapError]

theorem plan_of_some {α : Type} {table : String} (selected : draft.table = some table)
    (build : String → Except InvalidInput α) (call : α → Call kind) :
    (draft.requireTable >>= fun table => (checked (build table)).map call) =
      checked ((build table).map call) := by
  have ready : draft.requireTable = .ok table := by simp [Draft.requireTable, selected]
  rw [ready]
  change (checked (build table)).map call = _
  cases build table <;> rfl

/-- A call that is about something on the drafted table is planned exactly when there is a table and
it can be built there. -/
theorem plan_eq_ok_iff {α : Type} {build : String → Except InvalidInput α} {wrap : α → Call kind}
    {call : Call kind} :
    (draft.requireTable >>= fun table => (checked (build table)).map wrap) = .ok call ↔
      ∃ table payload,
        draft.table = some table ∧ build table = .ok payload ∧ wrap payload = call := by
  cases selected : draft.table with
  | none => simp [Draft.requireTable, selected, bind, Except.bind]
  | some table =>
      rw [plan_of_some selected, checked_eq_ok_iff, map_eq_ok]
      simp

theorem plan_of_none (terminal : operation.isTerminal = true) (unselected : draft.table = none) :
    operation.plan draft = .error (.invalidState .noTable) := by
  cases operation with
  | createTable table schema | updateTable table schema => cases terminal
  | tableInfo tables => cases terminal
  | get => simp [plan, Draft.compile_of_none unselected, Except.map]
  | _ => simp [plan, Draft.requireTable, unselected, bind, Except.bind]

/-- Otherwise all that can stand in the way of an operation are arguments that cannot be used. -/
theorem plan_eq_checked (named : draft.table ≠ some "")
    (ready : operation.isTerminal = true → draft.table ≠ none) :
    ∃ built : Except InvalidInput (Call kind), operation.plan draft = checked built ∧
      ((∃ cause, built = .error cause) ↔ operation.Unusable draft) := by
  cases operation with
  | createTable table schema | updateTable table schema =>
      refine ⟨_, rfl, ?_⟩
      rw [exists_map_eq_error_iff, exists_eq_error_iff, exists_congr fun _ => checkSchema_eq_ok_iff]
      simp [Unusable, imp_iff_not_or]
  | tableInfo tables =>
      by_cases unnamed : "" ∈ tables
      · exact ⟨.error .emptyTable, by simp [plan, unnamed, checked, Except.mapError],
          iff_of_true ⟨_, rfl⟩ unnamed⟩
      · refine ⟨.ok (.getMapping tables), by simp [plan, unnamed, checked, Except.mapError], ?_⟩
        simpa [Unusable] using unnamed
  | get =>
      obtain ⟨table, selected⟩ := Option.ne_none_iff_exists'.mp (ready rfl)
      refine ⟨.ok (.search ⟨table, draft.query, draft.page.offset, draft.page.limit⟩), ?_, ?_⟩
      · rw [plan, Draft.compile_of_some selected]
        rfl
      · simp [Unusable]
  | insert document =>
      obtain ⟨table, selected⟩ := Option.ne_none_iff_exists'.mp (ready rfl)
      refine ⟨_, plan_of_some selected (Insertion.new · document) .index, ?_⟩
      rw [exists_map_eq_error_iff]
      simp [Unusable, selected]
  | insertAll documents =>
      obtain ⟨table, selected⟩ := Option.ne_none_iff_exists'.mp (ready rfl)
      refine ⟨_, plan_of_some selected (Batch.new · documents) .bulk, ?_⟩
      rw [exists_map_eq_error_iff]
      simp [Unusable, selected]
  | find id | delete id =>
      obtain ⟨table, selected⟩ := Option.ne_none_iff_exists'.mp (ready rfl)
      refine ⟨_, plan_of_some selected (Address.new · id) _, ?_⟩
      rw [exists_map_eq_error_iff, exists_eq_error_iff, exists_congr fun _ => Address.new_eq_ok_iff]
      have given : table ≠ "" := fun unnamed => named (unnamed ▸ selected)
      simp [Unusable, selected, given]
  | update id fields =>
      obtain ⟨table, selected⟩ := Option.ne_none_iff_exists'.mp (ready rfl)
      refine ⟨_, plan_of_some selected (Change.new · id fields) .update, ?_⟩
      rw [exists_map_eq_error_iff, exists_eq_error_iff, exists_congr fun _ => Change.new_eq_ok_iff]
      have given : table ≠ "" := fun unnamed => named (unnamed ▸ selected)
      simp [Unusable, selected, given, imp_iff_not_or]

theorem not_unusable_of_none (terminal : operation.isTerminal = true)
    (unselected : draft.table = none) : ¬operation.Unusable draft := by
  cases operation with
  | createTable table schema | updateTable table schema => cases terminal
  | tableInfo tables => cases terminal
  | _ => simp [Unusable, unselected]

/-- What stands in the way of a plan is a missing table, and otherwise unusable arguments. -/
theorem plan_cases (operation : Operation kind) (named : draft.table ≠ some "") :
    (operation.plan draft = .error (.invalidState .noTable) ∧
        (operation.isTerminal = true ∧ draft.table = none) ∧ ¬operation.Unusable draft) ∨
      (¬(operation.isTerminal = true ∧ draft.table = none) ∧
        ((∃ cause, operation.plan draft = .error (.invalidInput cause) ∧ operation.Unusable draft) ∨
          ∃ call, operation.plan draft = .ok call ∧ ¬operation.Unusable draft)) := by
  by_cases missing : operation.isTerminal = true ∧ draft.table = none
  · exact .inl ⟨plan_of_none missing.1 missing.2, missing, not_unusable_of_none missing.1 missing.2⟩
  · have ready : operation.isTerminal = true → draft.table ≠ none := fun terminal unselected =>
      missing ⟨terminal, unselected⟩
    obtain ⟨built, plan, unusable⟩ := plan_eq_checked named ready
    refine .inr ⟨missing, ?_⟩
    cases built with
    | error cause => exact .inl ⟨cause, plan, unusable.mp ⟨cause, rfl⟩⟩
    | ok call => exact .inr ⟨call, plan, fun refused => by simpa using unusable.mpr refused⟩

end Operation

namespace Client

variable {σ : Type} {kind : Kind} {operation : Operation kind} {client : Client}

theorem perform_watched_of_error (engine : Engine σ) (seconds : Binary64) (state : σ)
    {error : Error} (planned : operation.plan client.draft = .error error) :
    client.perform engine.watched operation seconds (state, []) =
      (.error error, ⟨operation.leaves client.draft,
        client.tally.record operation.name seconds (some error.kind)⟩, state, []) := by
  simp only [perform, planned]

theorem perform_watched_of_ok (engine : Engine σ) (seconds : Binary64) (state : σ)
    {call : Call kind} (planned : operation.plan client.draft = .ok call) :
    client.perform engine.watched operation seconds (state, []) =
      ((engine.answer call state).1, ⟨operation.leaves client.draft,
        (beforeCall client.tally call).record operation.name seconds
          (failureKind? (engine.answer call state).1)⟩,
        (engine.answer call state).2, [LoggedCall.mk kind call]) := by
  simp only [perform, planned]
  rfl

/-- An operation of a reachable client on an engine of this library makes one call, whose answer is
its result, or none, and none exactly when it is refused.  The state is refused exactly when an
operation on the draft finds no table there, whatever its arguments are, and otherwise the input is
refused exactly when the arguments cannot be used.  An operation on the draft leaves the empty draft,
any other one leaves the draft as it is. -/
theorem fails_fast {engine : Engine σ} (builtIn : engine.IsBuiltIn) {client : Client}
    (reached : client.Reachable engine) {kind : Kind} (operation : Operation kind)
    (seconds : Binary64) (state : σ) :
    let (result, after, later, calls) := client.perform engine.watched operation seconds (state, [])
    ((calls = [] ∧ later = state) ∨
        ∃ call, calls = [LoggedCall.mk kind call] ∧ (result, later) = engine.answer call state) ∧
      (calls = [] ↔ (∃ cause, result = .error (.invalidInput cause)) ∨
        ∃ cause, result = .error (.invalidState cause)) ∧
      ((∃ cause, result = .error (.invalidState cause)) ↔
        operation.isTerminal = true ∧ client.draft.table = none) ∧
      ((∃ cause, result = .error (.invalidInput cause)) ↔ operation.Unusable client.draft) ∧
      after.draft = if operation.isTerminal then .empty else client.draft := by
  obtain ⟨plan, missing, usable⟩ | ⟨ready, ⟨cause, plan, unusable⟩ | ⟨call, plan, usable⟩⟩ :=
    operation.plan_cases reached.table_ne
  · rw [perform_watched_of_error engine seconds state plan]
    simp [missing, usable, Operation.leaves]
  · rw [perform_watched_of_error engine seconds state plan]
    simp [ready, unusable, Operation.leaves]
  · rw [perform_watched_of_ok engine seconds state plan]
    have answered : ∀ error, error.isRefusal = true →
        (engine.answer call state).1 ≠ .error error := by
      intro error refusal failed
      rw [builtIn.isRefusal_of_answer failed] at refusal
      cases refusal
    have validInput : ∀ cause, (engine.answer call state).1 ≠ .error (.invalidInput cause) :=
      fun cause => answered _ rfl
    have validState : ∀ cause, (engine.answer call state).1 ≠ .error (.invalidState cause) :=
      fun cause => answered _ rfl
    simp [ready, usable, validInput, validState, Operation.leaves]

/-- A client that has selected a table on a recording engine. -/
def usersClient : Client := ((Action.set (.table "users")).step Recorder.engine new .empty).1

/-- With a table selected, a change without fields makes no call, and a fetch makes one, which fails
when there is no such document; a new client is refused for want of a table, also with an empty
identifier. -/
theorem fails_fast_users :
    Recorder.engine.IsBuiltIn ∧ usersClient.Reachable Recorder.engine ∧
      new.Reachable Recorder.engine ∧
      (∃ cause, (usersClient.perform Recorder.engine.watched (.update "1" .empty) (.ofNat 1)
        (.empty, [])).1 = .error (.invalidInput cause)) ∧
      (¬∃ cause, (usersClient.perform Recorder.engine.watched (.find "1") (.ofNat 1)
        (.empty, [])).1 = .error (.invalidInput cause)) ∧
      (usersClient.perform Recorder.engine.watched (.find "1") (.ofNat 1) (.empty, [])).2.2.2 =
        [LoggedCall.mk .fetch (.get ⟨"users", "1"⟩)] ∧
      ∃ cause, (new.perform Recorder.engine.watched (.find "") (.ofNat 1) (.empty, [])).1 =
        .error (.invalidState cause) := by
  have builtIn : Recorder.engine.IsBuiltIn := .recorder
  have reached : usersClient.Reachable Recorder.engine := .step .new _ _
  have empty := fails_fast builtIn reached (.update "1" .empty) (.ofNat 1) .empty
  have fetch := fails_fast builtIn reached (.find "1") (.ofNat 1) .empty
  have fresh := fails_fast builtIn .new (.find "") (.ofNat 1) .empty
  have selected : usersClient.draft.table ≠ none := by decide
  exact ⟨builtIn, reached, .new, empty.2.2.2.1.mpr ⟨selected, .inr rfl⟩,
    fun refused => absurd (fetch.2.2.2.1.mp refused).2 (by decide), rfl,
    fresh.2.2.1.mpr ⟨rfl, rfl⟩⟩

end Client

end DocumentSearch
