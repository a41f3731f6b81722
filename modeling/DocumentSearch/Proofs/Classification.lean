import DocumentSearch.Proofs.Addressing
import DocumentSearch.Proofs.Plans

/-!
# What responses say

A response is told by its status first.  One of success is decoded as the answer of the call, and any
other is passed on with its text, except that a document is missing when it was asked for by its
address.  Operations that name no stored document never report one missing, whatever the engine says.
-/

namespace DocumentSearch

/-- The identifier of the stored document that an operation is about. -/
def Operation.documentId? {kind : Kind} : Operation kind → Option String
  | .find id => some id
  | .update id _ => some id
  | .delete id => some id
  | .get | .insert _ | .insertAll _ | .createTable _ _ | .updateTable _ _ | .tableInfo _ => none

/-- A planned call is about the document that the caller named, in the drafted table. -/
theorem Operation.address?_eq_some_iff {kind : Kind} {operation : Operation kind} {draft : Draft}
    {call : Call kind} (planned : operation.plan draft = .ok call) (table id : String) :
    call.address? = some ⟨table, id⟩ ↔
      operation.documentId? = some id ∧ draft.table = some table := by
  cases calls_of_plan planned with
  | find selected | update selected | delete selected =>
      simp [Call.address?, documentId?, selected, and_comm]
  | _ => simp [Call.address?, documentId?]

theorem Operation.address?_eq_none_iff {kind : Kind} {operation : Operation kind} {draft : Draft}
    {call : Call kind} (planned : operation.plan draft = .ok call) :
    call.address? = none ↔ operation.documentId? = none := by
  cases calls_of_plan planned <;> simp [Call.address?, documentId?]

namespace Client

/-- An operation that is planned and gets a response succeeds with an answer exactly when the status
is one of success and the body holds this answer; a body that does not is reported as such.  A
document is missing, under the names that the caller gave, exactly when the status is 404 and the
operation is about a document.  Any other status is passed on with the text of the body, and an error
may pass exactly when it holds one of four such statuses. -/
theorem responses_classified {τ : Type} {cluster : Http.Cluster} {transport : Http.Transport τ}
    {kind : Kind} {operation : Operation kind} {client : Client} {call : Call kind}
    (planned : operation.plan client.draft = .ok call) {state : Http.State τ}
    {response : Http.Response}
    (answered : (transport.exchange (cluster.request call state.requests.toNat) state.transport).1 =
      .ok response) (seconds : Binary64) :
    let result := (client.perform (cluster.engine transport) operation seconds state).1
    let succeeded := 200 ≤ response.status ∧ response.status < 300
    (∀ answer, result = .ok answer ↔ succeeded ∧ kind.ofBytes response.body = .ok answer) ∧
    (∀ fault, result = .error (.serialization fault) ↔
      succeeded ∧ kind.ofBytes response.body = .error fault) ∧
    (∀ table id, result = .error (.notFound table id) ↔
      response.status = 404 ∧ operation.documentId? = some id ∧ client.draft.table = some table) ∧
    (∀ status message, result = .error (.transport status message) ↔
      ¬succeeded ∧ (response.status = 404 → operation.documentId? = none) ∧
        status = some response.status ∧ message = response.text) ∧
    ∀ error, result = .error error →
      ((∃ fault, error = .serialization fault) ∨ (∃ table id, error = .notFound table id) ∨
        ∃ status message, error = .transport status message) ∧
      (error.isRetriable = true ↔ ∃ status message,
        error = .transport (some status) message ∧ status ∈ [429, 502, 503, 504]) := by
  have performed : (client.perform (cluster.engine transport) operation seconds state).1 =
      response.interpret call := by
    simp only [perform, planned, Http.Cluster.engine, Http.Cluster.answer, answered]
  dsimp only
  rw [performed, ← Http.Response.isSuccess_iff]
  have addressed := Operation.address?_eq_some_iff planned
  have unaddressed := Operation.address?_eq_none_iff planned
  simp only [← addressed, ← unaddressed]
  obtain ⟨succeeded, result⟩ | ⟨⟨table, id⟩, failed, missing, named, result⟩ |
    ⟨failed, elsewhere, result⟩ := response.interpret_cases call
  · have found : response.status ≠ 404 := by
      intro missing
      rw [Http.Response.isSuccess_iff, missing] at succeeded
      exact absurd succeeded (by decide)
    rw [result]
    cases decoded : kind.ofBytes response.body with
    | ok answer => simp [Except.mapError, succeeded, found]
    | error fault => simp [Except.mapError, succeeded, found, Error.isRetriable]
  · rw [result]
    simp [failed, missing, named, Error.isRetriable]
  · rw [result]
    simp only [failed, Error.isRetriable, Error.retriableStatuses]
    refine ⟨by simp, by simp, ?_, ?_, by simp⟩
    · intro table id
      refine iff_of_false (by simp) ?_
      rintro ⟨missing, named⟩
      rw [elsewhere missing] at named
      cases named
    · intro status message
      constructor
      · rintro ⟨⟩
        exact ⟨Bool.false_ne_true, elsewhere, rfl, rfl⟩
      · rintro ⟨_, _, rfl, rfl⟩
        rfl

/-- A document is shown when the response of a success holds it, but not when the body is cut off.  With
status 404 the same document is missing, while a document that is stored is told no more than the
status and the text. -/
theorem responses_classified_missing :
    let ann : Document := .ofList [("id", .string "a/b"), ("name", .string "ann")]
    let shown := Utf8.encode "\x7b\"_index\":\"t\",\"_id\":\"a/b\",\"found\":true\x7d".toList
    let start : Http.State (List Http.Request) := ⟨0, []⟩
    let engine (response : Http.Response) :=
      Http.Cluster.localEngine.engine (Http.Transport.ending (.ok response))
    let client := ((Action.set (.table "my table")).step (engine ⟨200, shown⟩) .new start).1
    let find (response : Http.Response) :=
      (client.perform (engine response) (.find "a/b") (.ofNat 1) start).1
    find ⟨200, shown⟩ = .ok ⟨"t", "a/b", none, true, none⟩ ∧
      find ⟨200, shown.dropLast⟩ = .error (.serialization .truncated) ∧
      find ⟨404, shown⟩ = .error (.notFound "my table" "a/b") ∧
      (client.perform (engine ⟨404, [0xFF, 0x21]⟩) (.insert ann) (.ofNat 1) start).1 =
        .error (.transport (some 404) "\uFFFD!") := by
  intro ann shown start engine client find
  have found : (Operation.find "a/b").plan client.draft = .ok (.get ⟨"my table", "a/b"⟩) := rfl
  have stored : (Operation.insert ann).plan client.draft =
      .ok (.index ⟨"my table", some "a/b", .ofList [("name", .string "ann")]⟩) := rfl
  have answered : ∀ {kind : Kind} (call : Call kind) (response : Http.Response),
      ((Http.Transport.ending (.ok response)).exchange
        (Http.Cluster.localEngine.request call start.requests.toNat) start.transport).1 =
        .ok response := fun _ _ => rfl
  obtain ⟨decodes, _⟩ := responses_classified found (answered _ ⟨200, shown⟩) (.ofNat 1)
  obtain ⟨_, cut, _⟩ := responses_classified found (answered _ ⟨200, shown.dropLast⟩) (.ofNat 1)
  obtain ⟨_, _, notFound, _⟩ := responses_classified found (answered _ ⟨404, shown⟩) (.ofNat 1)
  obtain ⟨_, _, _, refused, _⟩ :=
    responses_classified stored (answered _ ⟨404, [0xFF, 0x21]⟩) (.ofNat 1)
  exact ⟨(decodes _).mpr ⟨by decide, by rfl⟩, (cut _).mpr ⟨by decide, by rfl⟩,
    (notFound _ _).mpr ⟨rfl, rfl, rfl⟩, (refused _ _).mpr ⟨by decide, fun _ => rfl, rfl, by decide⟩⟩

end Client

end DocumentSearch
