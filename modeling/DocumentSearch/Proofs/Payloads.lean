import DocumentSearch.Payload
import DocumentSearch.Proofs.Checks
import Mathlib.Data.List.Forall2

/-!
# Accepted payloads

A payload is built exactly when its arguments pass every check, and then it holds what they say.  A
document that is stored has lost the reserved name: it went into the identifier.
-/

namespace DocumentSearch

theorem checkTable_eq_ok_iff {table : String} {passed : Unit} :
    checkTable table = .ok passed ↔ table ≠ "" := by
  simp [checkTable]

theorem checkId_eq_ok_iff {id : String} {passed : Unit} : checkId id = .ok passed ↔ id ≠ "" := by
  simp [checkId]

namespace Document

/-- Whether a record is what is stored of a document: its identifier apart from the other fields, of
which there is at least one. -/
def IsStoredAs (document : Document) (record : Record) : Prop :=
  document.id? = .ok record.id ∧ record.body = document.erase idField ∧ record.body.isEmpty = false

theorem split_eq_ok_iff {document : Document} {record : Record} :
    document.split = .ok record ↔
      document.id? = .ok record.id ∧ record.body = document.erase idField := by
  obtain ⟨id, body⟩ := record
  rw [split, map_eq_ok]
  simp [eq_comm]

theorem IsStoredAs.get?_idField {document : Document} {record : Record}
    (stored : document.IsStoredAs record) : record.body.get? idField = none := by
  rw [stored.2.1]
  exact OrderedMap.get?_erase_self document idField

theorem get?_idField_of_forall₂ {documents : List Document} {records : List Record}
    (stored : List.Forall₂ IsStoredAs documents records) :
    ∀ record ∈ records, record.body.get? idField = none := by
  induction stored with
  | nil => exact fun record member => nomatch member
  | cons first _ ih => exact List.forall_mem_cons.mpr ⟨first.get?_idField, ih⟩

theorem IsStoredAs.isEmpty_eq_false {document : Document} {record : Record}
    (stored : document.IsStoredAs record) : document.isEmpty = false := by
  obtain ⟨_, body, filled⟩ := stored
  rw [body] at filled
  cases entries : document.entries with
  | nil => simp [OrderedMap.erase, OrderedMap.isEmpty, Entries.erase, entries] at filled
  | cons entry rest => simp [OrderedMap.isEmpty, entries]

end Document

theorem Insertion.new_eq_ok_iff {table : String} {document : Document} {insertion : Insertion} :
    Insertion.new table document = .ok insertion ↔
      table ≠ "" ∧ insertion.table = table ∧ document.IsStoredAs insertion.record := by
  obtain ⟨chosen, record⟩ := insertion
  simp only [Insertion.new, bind_eq_ok, guard_eq_ok, checkTable_eq_ok_iff, exists_and_left,
    exists_const, Document.split_eq_ok_iff, pure, Except.pure, Except.ok.injEq, Insertion.mk.injEq]
  constructor
  · rintro ⟨named, _, split, ⟨id, body⟩, filled, rfl, rfl⟩
    exact ⟨named, rfl, id, body, by simpa using filled⟩
  · rintro ⟨named, rfl, stored⟩
    exact ⟨named, by simp [stored.isEmpty_eq_false], record, ⟨stored.1, stored.2.1⟩,
      by simp [stored.2.2], rfl, rfl⟩

namespace Batch

theorem split_eq_ok_iff {position : Nat} {documents : List Document} {records : List Record} :
    split position documents = .ok records ↔
      List.Forall₂ Document.IsStoredAs documents records := by
  induction documents generalizing position records with
  | nil => simp [split, eq_comm]
  | cons document rest ih =>
      simp only [split, bind_eq_ok, guard_eq_ok, Document.split_eq_ok_iff, pure, Except.pure,
        Except.ok.injEq, ih]
      constructor
      · rintro ⟨record, ⟨id, body⟩, filled, others, stored, rfl⟩
        exact .cons ⟨id, body, by simpa using filled⟩ stored
      · intro stored
        cases stored with
        | cons first others =>
            exact ⟨_, ⟨first.1, first.2.1⟩, by simp [first.2.2], _, others, rfl⟩

/-- A batch is made of a named table and documents that can be stored, of which there is at least
one. -/
theorem new_eq_ok_iff {table : String} {documents : List Document} {batch : Batch} :
    Batch.new table documents = .ok batch ↔
      table ≠ "" ∧ documents ≠ [] ∧ batch.table = table ∧
        List.Forall₂ Document.IsStoredAs documents batch.records := by
  obtain ⟨chosen, records⟩ := batch
  simp only [Batch.new, bind_eq_ok, guard_eq_ok, checkTable_eq_ok_iff, split_eq_ok_iff,
    exists_and_left, exists_const, pure, Except.pure, Except.ok.injEq, Batch.mk.injEq]
  constructor
  · rintro ⟨named, records, stored, filled, rfl, rfl⟩
    refine ⟨named, ?_, rfl, stored⟩
    rintro rfl
    cases stored
    exact filled rfl
  · rintro ⟨named, several, rfl, stored⟩
    refine ⟨named, records, stored, ?_, rfl, rfl⟩
    intro empty
    rw [List.isEmpty_iff] at empty
    subst empty
    cases stored
    exact several rfl

end Batch

theorem Address.new_eq_ok_iff {table id : String} {address : Address} :
    Address.new table id = .ok address ↔ table ≠ "" ∧ id ≠ "" ∧ ⟨table, id⟩ = address := by
  simp only [Address.new, bind_eq_ok, checkTable_eq_ok_iff, checkId_eq_ok_iff, exists_and_left,
    exists_const, pure, Except.pure, Except.ok.injEq]

theorem Change.new_eq_ok_iff {table id : String} {fields : Document} {change : Change} :
    Change.new table id fields = .ok change ↔
      table ≠ "" ∧ id ≠ "" ∧ fields.isEmpty = false ∧ ⟨⟨table, id⟩, fields⟩ = change := by
  simp only [Change.new, bind_eq_ok, guard_eq_ok, Address.new_eq_ok_iff, pure, Except.pure,
    Except.ok.injEq, Bool.not_eq_true]
  constructor
  · rintro ⟨_, ⟨tableNamed, idNamed, rfl⟩, filled, same⟩
    exact ⟨tableNamed, idNamed, filled, same⟩
  · rintro ⟨tableNamed, idNamed, filled, same⟩
    exact ⟨_, ⟨tableNamed, idNamed, rfl⟩, filled, same⟩

end DocumentSearch
