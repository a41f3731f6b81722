import DocumentSearch.Proofs.WireForms

/-!
# Ranges read back

A bound is written without its kind, and the kind is found again from the value: an integer of 64
bits stays one, a double is never taken for an integer, and a text never for a number.  Reading tries
the kinds in turn, while the conversion of a caller's value looks at the value; the two agree on every
value.  So a range is read back as it was, unless a bound of it is no finite number.
-/

namespace DocumentSearch

namespace Bound

/-- Reading a bound and converting a value agree. -/
theorem ofJson?_eq_some_iff {json : Json} {bound : Bound} :
    ofJson? json = some bound ↔ ofValue json = .ok bound := by
  cases json with
  | null | bool _ | array _ | object _ => exact iff_of_false (nomatch ·) (nomatch ·)
  | string text => simp [ofJson?, ofValue, Json.asInt64?, Json.asInt?, Json.asBinary64?,
      Json.asString?]
  | number number =>
      cases number with
      | double value finite =>
          simp [ofJson?, ofValue, Json.asInt64?, Json.asInt?, Json.asBinary64?, Number.toBinary64]
      | integer value bounded =>
          by_cases narrow : value ≤ Int64.maxValue.toInt
          · simp [ofJson?, ofValue, Json.asInt64?, Json.asInt?, narrow]
          · simp [ofJson?, ofValue, Json.asInt64?, Json.asInt?, narrow, Json.asBinary64?,
              Number.toBinary64]

theorem ofValue_toJson {bound : Bound} (finite : bound.IsFinite) :
    ofValue bound.toJson = .ok bound := by
  cases bound with
  | string text => rfl
  | double value => exact congrArg ofValue (toJson_double finite)
  | long value =>
      rw [toJson, Number.ofInt64, ofValue, if_pos value.toInt_le, Int64.ofInt_toInt]

end Bound

namespace Bounds

theorem ext_get {left right : Bounds} (same : ∀ side, left.get side = right.get side) :
    left = right := by
  obtain ⟨gt, gte, lt, lte⟩ := left
  obtain ⟨otherGt, otherGte, otherLt, otherLte⟩ := right
  cases (same .gt : gt = otherGt)
  cases (same .gte : gte = otherGte)
  cases (same .lt : lt = otherLt)
  cases (same .lte : lte = otherLte)
  rfl

theorem get_unbounded (side : Side) : unbounded.get side = none := by
  cases side <;> rfl

theorem isKnown_name (side : Side) : Json.Row.isKnown fields side.name = true := by
  cases side <;> rfl

theorem isComplete_fields (row : Json.Row) : Json.Row.isComplete fields row = true := by
  simp [Json.Row.isComplete, fields]

/-- Entries for different sides are read as bounds side by side. -/
theorem ofJson?_object_eq_some_iff {entries : List (String × Json)}
    (sides : ∀ entry ∈ entries, ∃ side : Side, entry.1 = side.name)
    (distinct : (Entries.keys entries).Nodup) {bounds : Bounds} :
    ofJson? (.object entries) = some bounds ↔
      ∀ side : Side, Json.Row.optional? entries side.name Bound.ofJson? =
        some (bounds.get side) := by
  have row : Json.Row.ofJson? fields (.object entries) = some entries := by
    refine Json.Row.ofEntries?_of_isKnown ?_ distinct (isComplete_fields entries)
    intro entry member
    obtain ⟨side, named⟩ := sides entry member
    rw [named]
    exact isKnown_name side
  rw [ofJson?_eq_some_iff, row]
  simp only [Option.some.injEq, exists_eq_left']

/-- Finite bounds are read back from their written form. -/
theorem ofJson?_toJson {bounds : Bounds} (finite : bounds.IsFinite) :
    ofJson? bounds.toJson = some bounds := by
  rw [toJson_eq, ofJson?_object_eq_some_iff _ bounds.nodup_keys_entries]
  · intro side
    refine Json.Row.optional?_eq_some_of_given (bounds.get?_entries side) ?_
    intro bound found
    have boundFinite := finite side bound found
    exact ⟨fun null => Bound.toJson_eq_null_iff.mp null boundFinite,
      Bound.ofJson?_eq_some_iff.mpr (Bound.ofValue_toJson boundFinite)⟩
  · intro entry member
    obtain ⟨side, _, _, rfl⟩ := mem_entries_iff.mp member
    exact ⟨side, rfl⟩

theorem toJson_eq_empty_iff {bounds : Bounds} :
    bounds.toJson = .object [] ↔ bounds.isUnbounded = true := by
  rw [toJson_eq, Json.object.injEq, entries, List.filterMap_eq_nil_iff, isUnbounded,
    List.all_eq_true]
  simp only [Option.map_eq_none_iff, Option.isNone_iff_eq_none]

theorem ofJson?_singleton_eq_some_iff {side : Side} {value : Json} (notNull : value ≠ .null)
    {bounds : Bounds} :
    ofJson? (.object [(side.name, value)]) = some bounds ↔
      ∃ bound, Bound.ofValue value = .ok bound ∧ bounds = unbounded.set side bound := by
  have given : Json.Row.given? [(side.name, value)] side.name = some value := if_pos rfl
  have missing : ∀ {other : Side}, other ≠ side →
      Json.Row.optional? [(side.name, value)] other.name Bound.ofJson? = some none :=
    fun different => Json.Row.optional?_eq_some_none_iff.mpr
      (.inl (if_neg fun same => different (Side.name_injective same).symm))
  rw [ofJson?_object_eq_some_iff (List.forall_mem_singleton.mpr ⟨side, rfl⟩)
    (List.nodup_singleton _)]
  constructor
  · intro sides
    have read := sides side
    cases found : bounds.get side with
    | none =>
        rw [found, Json.Row.optional?_eq_some_none_iff, given] at read
        simp [notNull] at read
    | some bound =>
        rw [found] at read
        obtain ⟨_, same, _, decoded⟩ := Json.Row.optional?_eq_some_some_iff.mp read
        cases given.symm.trans same
        refine ⟨bound, Bound.ofJson?_eq_some_iff.mp decoded, ext_get fun other => ?_⟩
        by_cases own : other = side
        · rw [own, get_set_self, found]
        · rw [get_set_of_ne _ _ own, get_unbounded]
          exact (Option.some.inj ((missing own).symm.trans (sides other))).symm
  · rintro ⟨bound, converted, rfl⟩ other
    by_cases own : other = side
    · rw [own, get_set_self]
      exact Json.Row.optional?_eq_some_some_iff.mpr
        ⟨value, given, notNull, Bound.ofJson?_eq_some_iff.mpr converted⟩
    · rw [get_set_of_ne _ _ own, get_unbounded]
      exact missing own

/-- Bounds are read back from their written form exactly when they are finite, and the written form
is empty exactly when there are none.  A value that is not `null` is read on a side as the bound that
it is converted to when a caller gives it, and refused when the conversion is. -/
theorem reads_back (bounds : Bounds) (side : Side) :
    (ofJson? bounds.toJson = some bounds ↔ bounds.IsFinite) ∧
    (bounds.isUnbounded = true ↔ bounds.toJson = .object []) ∧
    ∀ value, value ≠ Json.null →
      (∀ bound, Bound.ofValue value = .ok bound ↔
        ∃ read, ofJson? (.object [(side.name, value)]) = some read ∧ read.get side = some bound) ∧
      ∀ read, ofJson? (.object [(side.name, value)]) = some read →
        ∃ bound, read = unbounded.set side bound := by
  refine ⟨⟨isFinite_of_ofJson?, ofJson?_toJson⟩, toJson_eq_empty_iff.symm, ?_⟩
  intro value notNull
  refine ⟨fun bound => ⟨fun converted => ?_, ?_⟩, fun read decoded => ?_⟩
  · exact ⟨_, (ofJson?_singleton_eq_some_iff notNull).mpr ⟨bound, converted, rfl⟩,
      get_set_self ..⟩
  · rintro ⟨read, decoded, held⟩
    obtain ⟨other, converted, rfl⟩ := (ofJson?_singleton_eq_some_iff notNull).mp decoded
    rw [get_set_self, Option.some.injEq] at held
    rw [converted, held]
  · obtain ⟨bound, _, set⟩ := (ofJson?_singleton_eq_some_iff notNull).mp decoded
    exact ⟨bound, set⟩

/-- The least integer, a negative zero, a whole double and a text that looks like a number. -/
def mixedBounds : Bounds :=
  ⟨some (.long (-9223372036854775808)), some (.double ⟨0x8000000000000000⟩),
    some (.double ⟨0x4014000000000000⟩), some (.string "5")⟩

/-- A great integer is read on a side as the double that it is converted to, and a truth value is not
read at all.  An infinite bound is lost. -/
theorem reads_back_mixedBounds :
    ofJson? mixedBounds.toJson = some mixedBounds ∧
    mixedBounds.toJson ≠ .object [] ∧
    (∃ read, ofJson? (.object [("lt", .number (.ofUInt64 18446744073709551615))]) = some read ∧
      read.get .lt = some (.double ⟨0x43F0000000000000⟩)) ∧
    (∀ read, ofJson? (.object [("gte", .bool true)]) ≠ some read) ∧
    ofJson? (unbounded.set .gt (.double (.infinity true))).toJson ≠
      some (unbounded.set .gt (.double (.infinity true))) := by
  obtain ⟨back, empty, alike⟩ := reads_back mixedBounds .lt
  obtain ⟨_, _, refused⟩ := reads_back mixedBounds .gte
  obtain ⟨lost, _⟩ := reads_back (unbounded.set .gt (.double (.infinity true))) .gt
  have finite : mixedBounds.IsFinite := by
    intro side bound found
    cases side with
    | gt | lte =>
        cases found
        trivial
    | gte | lt =>
        cases found
        rfl
  have converted : Bound.ofValue (.number (.ofUInt64 18446744073709551615)) =
      .ok (.double ⟨0x43F0000000000000⟩) := by decide +kernel
  obtain ⟨agrees, _⟩ := alike (.number (.ofUInt64 18446744073709551615)) (nomatch ·)
  obtain ⟨truth, onlyOne⟩ := refused (.bool true) (nomatch ·)
  refine ⟨back.mpr finite, fun none => ?_, (agrees _).mp converted, fun read decoded => ?_,
    fun kept => ?_⟩
  · exact absurd (empty.mpr none) (by decide)
  · obtain ⟨bound, rfl⟩ := onlyOne read decoded
    cases (truth bound).mpr ⟨_, decoded, get_set_self ..⟩
  · exact absurd (lost.mp kept .gt _ rfl) (by decide +kernel : ¬(Binary64.infinity true).isFinite = true)

end Bounds

end DocumentSearch
