import DocumentSearch.Proofs.Decimals
import DocumentSearch.Proofs.OrderedMap
import DocumentSearch.Proofs.Payloads

/-!
# Identifiers and what is left of a document

Splitting takes the reserved name off a document, wherever it stands, and keeps the other fields in
their order.  What stood under the name decides whether there is an identifier, there is none, or the
document is refused.
-/

namespace DocumentSearch

theorem OrderedMap.entries_erase {α : Type} (map : OrderedMap α) (key : String) :
    (map.erase key).entries = map.entries.filter fun entry => entry.1 ≠ key := rfl

theorem OrderedMap.erase_erase {α : Type} (map : OrderedMap α) (key : String) :
    (map.erase key).erase key = map.erase key := by
  ext1
  rw [entries_erase, entries_erase, List.filter_filter]
  simp only [Bool.and_self]

namespace Document

/-- The identifier that is meant by what stands under the reserved name, if anything does. -/
inductive GivesId : Option Json → Option String → Prop
  | absent : GivesId none none
  | null : GivesId (some .null) none
  | text {text : String} (filled : text ≠ "") : GivesId (some (.string text)) (some text)
  | integer {value : Int}
      (bounded : -9223372036854775808 ≤ value ∧ value < 18446744073709551616) :
      GivesId (some (.number (.integer value bounded))) (some (toString value))

/-- Why what stands under the reserved name is no identifier. -/
inductive RefusesId : Json → InvalidInput → Prop
  | empty : RefusesId (.string "") .emptyDocumentId
  | bool (value : Bool) : RefusesId (.bool value) (.unusableDocumentId (.bool value))
  | fraction (value : Binary64) (finite : value.isFinite = true) :
      RefusesId (.number (.double value finite)) (.unusableDocumentId (.number (.double value finite)))
  | array (items : List Json) : RefusesId (.array items) (.unusableDocumentId (.array items))
  | object (entries : List (String × Json)) :
      RefusesId (.object entries) (.unusableDocumentId (.object entries))

/-- What stands under the reserved name gives an identifier or none, or is refused. -/
theorem idOfJson_cases (json : Json) :
    (∃ id, idOfJson json = .ok id ∧ GivesId (some json) id) ∨
      ∃ cause, idOfJson json = .error cause ∧ RefusesId json cause := by
  cases json with
  | null => exact .inl ⟨none, rfl, .null⟩
  | bool value => exact .inr ⟨_, rfl, .bool value⟩
  | array items => exact .inr ⟨_, rfl, .array items⟩
  | object entries => exact .inr ⟨_, rfl, .object entries⟩
  | string text =>
      by_cases empty : text = ""
      · subst empty
        exact .inr ⟨_, rfl, .empty⟩
      · refine .inl ⟨some text, ?_, .text empty⟩
        rw [idOfJson]
        exact empty
  | number number =>
      cases number with
      | double value finite => exact .inr ⟨_, rfl, .fraction value finite⟩
      | integer value bounded =>
          refine .inl ⟨some (toString value), ?_, .integer bounded⟩
          rw [idOfJson, Json.ofList_integerChars]

theorem GivesId.unique {json? : Option Json} {first second : Option String}
    (given : GivesId json? first) (again : GivesId json? second) : first = second := by
  cases given <;> cases again <;> rfl

theorem RefusesId.not_givesId {json : Json} {cause : InvalidInput} (refused : RefusesId json cause)
    (id : Option String) : ¬GivesId (some json) id := by
  rintro (_ | _ | filled | _)
  · cases refused
  · cases refused
    exact filled rfl
  · cases refused

theorem id?_eq_ok_iff {document : Document} {id : Option String} :
    document.id? = .ok id ↔ GivesId (document.get? idField) id := by
  cases found : document.get? idField with
  | none =>
      rw [id?, found]
      constructor
      · intro given
        cases given
        exact .absent
      · intro given
        cases given
        rfl
  | some json =>
      rw [id?, found]
      obtain ⟨meant, read, given⟩ | ⟨cause, read, refused⟩ := idOfJson_cases json
      · simp only [read, Except.ok.injEq]
        exact ⟨fun same => same ▸ given, given.unique⟩
      · simp only [read, reduceCtorEq, false_iff]
        exact refused.not_givesId id

theorem id?_eq_error_iff {document : Document} {cause : InvalidInput} :
    document.id? = .error cause ↔
      ∃ json, document.get? idField = some json ∧ RefusesId json cause := by
  cases found : document.get? idField with
  | none => simp [id?, found]
  | some json =>
      rw [id?, found]
      obtain ⟨meant, read, given⟩ | ⟨reason, read, refused⟩ := idOfJson_cases json
      · simp only [read, reduceCtorEq, false_iff]
        rintro ⟨_, same, refused⟩
        cases same
        exact refused.not_givesId meant given
      · simp only [read, Except.error.injEq, Option.some.injEq, exists_eq_left']
        constructor
        · rintro rfl
          exact refused
        · intro again
          cases refused <;> cases again <;> rfl

theorem split_eq_error_iff {document : Document} {cause : InvalidInput} :
    document.split = .error cause ↔ document.id? = .error cause := by
  rw [split]
  cases document.id? <;> simp [Except.map]

/-- A document is split exactly when nothing or `null` stands under the reserved name, or else a text
that is not empty or an integer; the text or the decimal text of the integer is the identifier then,
and the integer is read back from it.  What is left are the other fields in their order, and splitting
it again changes nothing.  Anything else under the reserved name is refused. -/
theorem split_partitions (document : Document) :
    ((∃ record, document.split = .ok record) ↔ ∃ id, GivesId (document.get? idField) id) ∧
    (∀ record, document.split = .ok record →
      GivesId (document.get? idField) record.id ∧
      record.body.entries = document.entries.filter (fun entry => entry.1 ≠ idField) ∧
      record.body.split = .ok ⟨none, record.body⟩ ∧
      ∀ value bounded, document.get? idField = some (.number (.integer value bounded)) →
        ∃ digits, record.id = some digits ∧ digits ≠ "" ∧
          Json.ofText digits = .ok (.number (.integer value bounded))) ∧
    ∀ cause, document.split = .error cause ↔
      ∃ json, document.get? idField = some json ∧ RefusesId json cause := by
  refine ⟨?_, ?_, fun cause => split_eq_error_iff.trans id?_eq_error_iff⟩
  · simp only [split_eq_ok_iff, id?_eq_ok_iff]
    constructor
    · rintro ⟨record, given, _⟩
      exact ⟨record.id, given⟩
    · rintro ⟨id, given⟩
      exact ⟨⟨id, document.erase idField⟩, given, rfl⟩
  · rintro ⟨id, body⟩ parted
    obtain ⟨found, rfl⟩ := split_eq_ok_iff.mp parted
    have given := id?_eq_ok_iff.mp found
    refine ⟨given, document.entries_erase idField, ?_, ?_⟩
    · rw [split_eq_ok_iff, id?_eq_ok_iff, OrderedMap.get?_erase_self, OrderedMap.erase_erase]
      exact ⟨.absent, rfl⟩
    · intro value bounded integer
      rw [integer] at given
      cases given
      have read := Json.ofText_toString bounded
      refine ⟨_, rfl, ?_, read⟩
      intro empty
      rw [empty] at read
      cases read

/-- A document with the least integer as its identifier, between two other fields. -/
def numbered : Document :=
  .ofList [("name", .string "ann"), ("id", .number (.integer (-9223372036854775808) (by decide))),
    ("age", .null)]

theorem split_partitions_numbered :
    (∃ record, numbered.split = .ok record ∧ record.id = some "-9223372036854775808" ∧
      record.body.entries = [("name", .string "ann"), ("age", .null)] ∧
      record.body.split = .ok ⟨none, record.body⟩) ∧
    Json.ofText "-9223372036854775808" =
      .ok (.number (.integer (-9223372036854775808) (by decide))) ∧
    split (.ofList [("name", .string "ann"), ("id", .string "")]) = .error .emptyDocumentId := by
  obtain ⟨succeeds, parts, _⟩ := split_partitions numbered
  obtain ⟨record, parted⟩ := succeeds.mpr ⟨_, .integer (by decide)⟩
  obtain ⟨given, fields, again, integer⟩ := parts record parted
  obtain ⟨digits, held, _, read⟩ := integer _ (by decide) rfl
  have same : record.id = some "-9223372036854775808" := given.unique (.integer (by decide))
  cases held.symm.trans same
  obtain ⟨_, _, refuses⟩ := split_partitions (.ofList [("name", .string "ann"), ("id", .string "")])
  exact ⟨⟨record, parted, same, fields, again⟩, read, (refuses _).mpr ⟨_, rfl, .empty⟩⟩

end Document

end DocumentSearch
