import DocumentSearch.Memory.Session
import DocumentSearch.Proofs.OrderedMap

/-!
# What a store finds

Every change of a store is told by what is found at the addresses afterwards: storing and removing
act on one address, and making sure of a table acts on none.  An operation on a recorder either
fails and leaves the store as it was, or is answered by the store.
-/

namespace DocumentSearch

namespace Store

theorem table_withTable (store : Store) (name other : String) (table : Table) :
    (store.withTable name table).table other =
      if name = other then table else store.table other := by
  rw [Store.table, withTable, OrderedMap.get?_insert]
  split <;> rfl

theorem find?_withTable (store : Store) (name : String) (table : Table) (address : Address) :
    (store.withTable name table).find? address =
      if name = address.table then table.get? address.id else store.find? address := by
  rw [find?, table_withTable, apply_ite (OrderedMap.get? · address.id)]
  rfl

theorem find?_putAt (store : Store) (address other : Address) (body : Document) :
    (store.putAt address body).find? other =
      if address = other then some body else store.find? other := by
  obtain ⟨table, id⟩ := address
  obtain ⟨otherTable, otherId⟩ := other
  rw [putAt, find?_withTable, OrderedMap.get?_insert]
  by_cases sameTable : table = otherTable
  · subst sameTable
    simp [find?]
  · simp [sameTable]

theorem find?_remove (store : Store) (address other : Address) :
    (store.remove address).find? other =
      if address = other then none else store.find? other := by
  obtain ⟨table, id⟩ := address
  obtain ⟨otherTable, otherId⟩ := other
  rw [remove, find?_withTable, OrderedMap.get?_erase]
  by_cases sameTable : table = otherTable
  · subst sameTable
    simp [find?]
  · simp [sameTable]

theorem find?_create (store : Store) (name : String) (address : Address) :
    (store.create name).find? address = store.find? address := by
  rw [create, find?_withTable]
  split
  · rename_i same
    rw [same]
    rfl
  · rfl

theorem find?_put (store : Store) (table : String) (record : Record) (address : Address) :
    (store.put table record).2.find? address =
      if ⟨table, (store.put table record).1.id⟩ = address then some record.body
      else store.find? address := by
  obtain ⟨given, body⟩ := record
  cases given with
  | some id => exact find?_putAt store ⟨table, id⟩ address body
  | none => exact find?_putAt store.nextId.2 ⟨table, store.nextId.1⟩ address body

/-- A table grows by one when a document comes to an address without one. -/
theorem documentCount_putAt (store : Store) (address : Address) (body : Document) :
    (store.putAt address body).documentCount address.table =
      store.documentCount address.table + if store.find? address = none then 1 else 0 := by
  have absent : store.find? address = none ↔ address.id ∉ (store.table address.table).keys :=
    Entries.get?_eq_none_iff address.id (store.table address.table).entries
  rw [documentCount, putAt, table_withTable, if_pos rfl, OrderedMap.size_insert, documentCount]
  simp only [absent, ite_not]

theorem mem_table_iff (store : Store) (name id : String) (body : Document) :
    (id, body) ∈ (store.table name).entries ↔ store.find? ⟨name, id⟩ = some body :=
  (store.table name).mem_entries_iff id body

end Store

namespace Recorder

variable {kind : Kind} {recorder : Recorder}

theorem answer_of_failure {failure : PlannedFailure} (planned : recorder.failure = some failure)
    (call : Call kind) :
    recorder.answer call = (.error (.transport failure.status failure.message),
      ⟨recorder.store, recorder.log ++ [⟨kind, call⟩], none⟩) := by
  simp only [answer, planned]

theorem answer_of_none (unplanned : recorder.failure = none) (call : Call kind) :
    recorder.answer call = ((recorder.store.answer call).1,
      ⟨(recorder.store.answer call).2, recorder.log ++ [⟨kind, call⟩], none⟩) := by
  simp only [answer, unplanned]

end Recorder

namespace Session

theorem run_append_singleton (session : Session) (turns : List Turn) (turn : Turn) :
    session.run (turns ++ [turn]) = (session.run turns).take turn :=
  List.foldl_append

theorem recorder_take_set (session : Session) (who : Nat) (setter : Setter) :
    (session.take (.act who (.set setter))).recorder = session.recorder := by
  simp only [take, Action.step]
  split <;> rfl

/-- An operation fails and leaves the store as it was, or the store answers the planned call. -/
theorem perform_cases {kind : Kind} (session : Session) (who : Nat) (operation : Operation kind)
    (seconds : Binary64) :
    ((∃ error, session.answerTo who operation seconds = .error error) ∧
        (session.take (.act who (.perform kind operation seconds))).store = session.store) ∨
      ∃ call, operation.plan (session.clients who).draft = .ok call ∧
        session.answerTo who operation seconds = (session.store.answer call).1 ∧
        (session.take (.act who (.perform kind operation seconds))).store =
          (session.store.answer call).2 := by
  simp only [answerTo, take, Action.step, Client.perform, store]
  cases planned : operation.plan (session.clients who).draft with
  | error error => exact .inl ⟨⟨error, rfl⟩, rfl⟩
  | ok call =>
      cases due : session.recorder.failure with
      | some failure =>
          simp only [Recorder.engine, Recorder.answer_of_failure due]
          exact .inl ⟨⟨_, rfl⟩, trivial⟩
      | none =>
          simp only [Recorder.engine, Recorder.answer_of_none due]
          exact .inr ⟨call, rfl, rfl, rfl⟩

/-- Where no failure is planned, the store answers the planned call. -/
theorem answerTo_of_plan {kind : Kind} {session : Session}
    (unplanned : session.recorder.failure = none) {who : Nat} {operation : Operation kind}
    {call : Call kind} (planned : operation.plan (session.clients who).draft = .ok call)
    (seconds : Binary64) :
    session.answerTo who operation seconds = (session.store.answer call).1 := by
  simp only [answerTo, Client.perform, planned, Recorder.engine,
    Recorder.answer_of_none unplanned, store]

end Session

end DocumentSearch
