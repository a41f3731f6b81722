import DocumentSearch.Proofs.Refusals
import DocumentSearch.Proofs.Store

/-!
# The reserved name among stored fields

Documents that are stored come without the reserved name, one by one and in batches.  A change is
merged as it is given: one that holds the reserved name puts it among the fields of a stored
document.  Throughout a session the name is no field exactly when no such change succeeds.
-/

namespace DocumentSearch

/-- Whether the reserved name is no field of a document. -/
def Document.IsIdFree (document : Document) : Prop := document.get? idField = none

/-- Whether the reserved name is no field of any stored document. -/
def Store.IsIdFree (store : Store) : Prop :=
  ∀ address body, store.find? address = some body → body.IsIdFree

/-- The documents that an answer shows. -/
def Kind.documents : (kind : Kind) → kind.Answer → List Document
  | .fetch, report => report.source.toList
  | .hits, report => report.documents
  | .acknowledgement, _ | .mappings, _ | .write, _ | .bulk, _ => []

/-- Whether an operation is to merge a field with the reserved name. -/
def Operation.mergesId {kind : Kind} : Operation kind → Bool
  | .update _ fields => fields.contains Document.idField
  | _ => false

namespace Call

variable {kind : Kind}

/-- The records that a call hands over to be stored. -/
def records : Call kind → List Record
  | .index insertion => [insertion.record]
  | .bulk batch => batch.records
  | _ => []

/-- Whether a call is to merge a field with the reserved name. -/
def mergesId : Call kind → Bool
  | .update change => change.fields.contains Document.idField
  | _ => false

end Call

namespace Session

/-- Whether no answer that a client could get now shows the reserved name as a field. -/
def ShowsNoId (session : Session) : Prop :=
  ∀ (who : Nat) (kind : Kind) (operation : Operation kind) (seconds : Binary64)
    (answer : kind.Answer), session.answerTo who operation seconds = .ok answer →
      ∀ document ∈ kind.documents answer, document.IsIdFree

/-- Whether a field with the reserved name is merged into a stored document in a turn. -/
def mergesId (session : Session) : Turn → Bool
  | .act who (.perform _ operation seconds) =>
      operation.mergesId && (session.answerTo who operation seconds).isOk
  | _ => false

end Session

/-- Merging keeps the reserved name away exactly when what is merged does not hold it. -/
theorem Document.IsIdFree.merge_iff {body : Document} (free : body.IsIdFree) (fields : Document) :
    Document.IsIdFree (body.merge fields) ↔ fields.contains Document.idField = false := by
  unfold Document.IsIdFree at free ⊢
  rw [OrderedMap.get?_merge, free, Option.or_none, OrderedMap.contains, Option.isSome_eq_false_iff,
    Option.isNone_iff_eq_none]

/-! ## Stores -/

namespace Store

variable {store : Store}

theorem isIdFree_empty : empty.IsIdFree := by
  intro address body found
  cases found

theorem IsIdFree.of_written (free : store.IsIdFree) {after : Store} {address : Address}
    {written : Option Document}
    (found : ∀ other, after.find? other = if address = other then written else store.find? other)
    (writtenFree : ∀ body, written = some body → body.IsIdFree) : after.IsIdFree := by
  intro other body stored
  rw [found] at stored
  split at stored
  · exact writtenFree body stored
  · exact free other body stored

theorem IsIdFree.putAt_iff (free : store.IsIdFree) (address : Address) (body : Document) :
    (store.putAt address body).IsIdFree ↔ body.IsIdFree := by
  constructor
  · intro after
    exact after address body (by rw [find?_putAt, if_pos rfl])
  · intro bodyFree
    refine free.of_written (fun other => store.find?_putAt address other body) ?_
    intro stored same
    cases same
    exact bodyFree

theorem IsIdFree.remove (free : store.IsIdFree) (address : Address) :
    (store.remove address).IsIdFree :=
  free.of_written (store.find?_remove address) fun _ written => nomatch written

theorem IsIdFree.create (free : store.IsIdFree) (name : String) : (store.create name).IsIdFree := by
  intro address body found
  rw [find?_create] at found
  exact free address body found

theorem IsIdFree.put (free : store.IsIdFree) (table : String) {record : Record}
    (recordFree : record.body.IsIdFree) : (store.put table record).2.IsIdFree := by
  refine free.of_written (store.find?_put table record) ?_
  intro stored same
  cases same
  exact recordFree

theorem IsIdFree.putAll (free : store.IsIdFree) (table : String) {records : List Record}
    (recordsFree : ∀ record ∈ records, record.body.IsIdFree) :
    (Store.putAll table records store).2.IsIdFree := by
  induction records generalizing store with
  | nil => exact free
  | cons record rest ih =>
      obtain ⟨recordFree, restFree⟩ := List.forall_mem_cons.mp recordsFree
      exact ih (free.put table recordFree) restFree

/-- A call makes the reserved name a field exactly when it merges it into a document that exists. -/
theorem IsIdFree.answer_iff {kind : Kind} (free : store.IsIdFree) {call : Call kind}
    (recordsFree : ∀ record ∈ call.records, record.body.IsIdFree) :
    (store.answer call).2.IsIdFree ↔ (call.mergesId && (store.answer call).1.isOk) = false := by
  cases call with
  | createTable name schema => exact iff_of_true (free.create name) rfl
  | updateMapping | getMapping | get | search => exact iff_of_true free rfl
  | index insertion =>
      exact iff_of_true (free.put insertion.table (recordsFree _ (List.mem_singleton_self _))) rfl
  | bulk batch =>
      rw [answer_bulk]
      exact iff_of_true (free.putAll batch.table recordsFree) rfl
  | update change =>
      cases found : store.find? change.address with
      | none =>
          simp only [answer, found]
          exact iff_of_true free (Bool.and_false _)
      | some body =>
          simp only [answer, found]
          rw [free.putAt_iff, (free change.address body found).merge_iff]
          exact Eq.congr (Bool.and_true _).symm rfl
  | delete address =>
      cases found : store.find? address with
      | none =>
          simp only [answer, found]
          exact iff_of_true free rfl
      | some body =>
          simp only [answer, found]
          exact iff_of_true (free.remove address) rfl

theorem IsIdFree.of_mem_documents {kind : Kind} (free : store.IsIdFree) {call : Call kind}
    {answer : kind.Answer} (answered : (store.answer call).1 = .ok answer) {document : Document}
    (shown : document ∈ kind.documents answer) : document.IsIdFree := by
  cases call with
  | get address =>
      cases found : store.find? address with
      | none => simp [Store.answer, found] at answered
      | some body =>
          simp only [Store.answer, found, Except.ok.injEq] at answered
          subst answered
          cases List.mem_singleton.mp shown
          exact free address document found
  | search request =>
      cases answered
      obtain ⟨hit, onPage, rfl⟩ := List.mem_map.mp shown
      obtain ⟨⟨id, body⟩, entry, rfl⟩ := List.mem_map.mp onPage
      have stored := List.mem_of_mem_drop (List.mem_of_mem_take entry)
      exact free ⟨request.table, id⟩ body ((store.mem_table_iff _ id body).mp stored)
  | _ => cases shown

end Store

/-! ## Sessions -/

/-- What is handed over to be stored comes without the reserved name, and what is merged comes as it
was given. -/
theorem Operation.records_mergesId_of_plan {kind : Kind} {operation : Operation kind} {draft : Draft}
    {call : Call kind} (planned : operation.plan draft = .ok call) :
    (∀ record ∈ call.records, record.body.IsIdFree) ∧ call.mergesId = operation.mergesId := by
  cases operation with
  | get =>
      obtain ⟨search, _, rfl⟩ := map_eq_ok.mp planned
      exact ⟨by simp [Call.records], rfl⟩
  | insert document =>
      obtain ⟨table, insertion, _, built, rfl⟩ := plan_eq_ok_iff.mp planned
      have stored := (Insertion.new_eq_ok_iff.mp built).2.2
      refine ⟨fun record member => ?_, rfl⟩
      cases List.mem_singleton.mp member
      exact stored.get?_idField
  | insertAll documents =>
      obtain ⟨table, batch, _, built, rfl⟩ := plan_eq_ok_iff.mp planned
      have stored := (Batch.new_eq_ok_iff.mp built).2.2.2
      exact ⟨Document.get?_idField_of_forall₂ stored, rfl⟩
  | update id fields =>
      obtain ⟨table, change, _, built, rfl⟩ := plan_eq_ok_iff.mp planned
      obtain ⟨_, _, _, rfl⟩ := Change.new_eq_ok_iff.mp built
      exact ⟨by simp [Call.records], rfl⟩
  | find id | delete id =>
      obtain ⟨table, address, _, _, rfl⟩ := plan_eq_ok_iff.mp planned
      exact ⟨by simp [Call.records], rfl⟩
  | createTable table schema | updateTable table schema =>
      obtain ⟨_, _, rfl⟩ := map_eq_ok.mp (checked_eq_ok_iff.mp planned)
      exact ⟨by simp [Call.records], rfl⟩
  | tableInfo tables =>
      rw [plan] at planned
      split at planned
      · cases planned
      · cases planned
        exact ⟨by simp [Call.records], rfl⟩

namespace Session

variable {session : Session}

/-- A turn keeps the reserved name away from the fields exactly when it does not merge it into a
document. -/
theorem isIdFree_take_iff (free : session.store.IsIdFree) (turn : Turn) :
    (session.take turn).store.IsIdFree ↔ session.mergesId turn = false := by
  cases turn with
  | failNext failure | clearLog => exact iff_of_true free rfl
  | act who action =>
      cases action with
      | reset | preview => exact iff_of_true free rfl
      | set setter =>
          rw [store, recorder_take_set]
          exact iff_of_true free rfl
      | perform kind operation seconds =>
          obtain ⟨⟨error, failed⟩, same⟩ | ⟨call, planned, answered, after⟩ :=
            session.perform_cases who operation seconds
          · rw [same, mergesId, failed]
            exact iff_of_true free (Bool.and_false _)
          · obtain ⟨recordsFree, merges⟩ := Operation.records_mergesId_of_plan planned
            rw [after, free.answer_iff recordsFree, mergesId, answered, merges]

theorem showsNoId_of_isIdFree (free : session.store.IsIdFree) : session.ShowsNoId := by
  intro who kind operation seconds answer answered document shown
  obtain ⟨⟨error, failed⟩, _⟩ | ⟨call, _, result, _⟩ := session.perform_cases who operation seconds
  · rw [failed] at answered
    cases answered
  · rw [result] at answered
    exact free.of_mem_documents answered shown

/-- Throughout a session the reserved name is no field of a stored document, and none of a document
that is shown, exactly when no change that holds it succeeds. -/
theorem isIdFree_throughout_iff (turns : List Turn) :
    (∀ past, past <+: turns →
      (start.run past).store.IsIdFree ∧ (start.run past).ShowsNoId) ↔
      ∀ past turn, past ++ [turn] <+: turns → (start.run past).mergesId turn = false := by
  constructor
  · intro always past turn within
    have before := (always past ((List.prefix_append past [turn]).trans within)).1
    have after := (always (past ++ [turn]) within).1
    rw [run_append_singleton] at after
    exact (isIdFree_take_iff before turn).mp after
  · intro never past
    induction past using List.reverseRecOn with
    | nil =>
        intro _
        exact ⟨Store.isIdFree_empty, showsNoId_of_isIdFree Store.isIdFree_empty⟩
    | append_singleton past turn ih =>
        intro within
        have before := (ih ((List.prefix_append past [turn]).trans within)).1
        have after := (isIdFree_take_iff before turn).mpr (never past turn within)
        rw [run_append_singleton]
        exact ⟨after, showsNoId_of_isIdFree after⟩

/-- A document is stored under the identifier it gave, then changed by fields that give another one:
the other one is stored as a field and shown by the next fetch. -/
theorem not_isIdFree_of_update :
    let turns : List Turn :=
      [.act 0 (.set (.table "users")),
       .act 0 (.perform .write
         (.insert (.ofList [("id", .string "7"), ("name", .string "alice")])) (.ofNat 1)),
       .act 0 (.set (.table "users")),
       .act 0 (.perform .write
         (.update "7" (.ofList [("id", .string "8"), ("name", .string "bob")])) (.ofNat 1)),
       .act 0 (.set (.table "users"))]
    let changed : Document := .ofList [("name", .string "bob"), ("id", .string "8")]
    let now := start.run turns
    now.store.find? ⟨"users", "7"⟩ = some changed ∧
      now.answerTo 0 (.find "7") (.ofNat 1) = .ok ⟨"users", "7", some 1, true, some changed⟩ ∧
      ¬now.store.IsIdFree ∧ ¬now.ShowsNoId := by
  intro turns changed now
  have stored : now.store.find? ⟨"users", "7"⟩ = some changed := by decide
  have shown : now.answerTo 0 (.find "7") (.ofNat 1) =
      .ok ⟨"users", "7", some 1, true, some changed⟩ := by rfl
  have named : changed.get? Document.idField = some (.string "8") := by rfl
  refine ⟨stored, shown, ?_, ?_⟩
  · intro free
    have unnamed : changed.get? Document.idField = none := free _ _ stored
    rw [named] at unnamed
    cases unnamed
  · intro hidden
    have unnamed : changed.get? Document.idField = none :=
      hidden 0 .fetch (.find "7") (.ofNat 1) _ shown changed (List.mem_singleton_self changed)
    rw [named] at unnamed
    cases unnamed

end Session

end DocumentSearch
