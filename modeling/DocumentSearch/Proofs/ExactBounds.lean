import DocumentSearch.Proofs.Conditions
import DocumentSearch.Proofs.WholeNumbers

/-!
# Integers in comparisons

A comparison with an integer becomes a range with one bound.  Bounds have integers with a sign only,
so an integer that takes all 64 bits becomes a double, and only multiples of `2048` are kept.  A
match and a filter keep every integer.
-/

namespace DocumentSearch

/-- Whether a number of JSON is the integer. -/
def Number.Denotes : Number → Int → Prop
  | .integer written _, value => written = value
  | .double written _, value => written.signedUnits = value * Binary64.unitsPerOne

/-- What is written about a field in a section of a query. -/
def Query.writtenAbout (query : Query) (target : Section) (field : String) : List Json :=
  ((query.clausesIn target).filter fun clause => clause.field = field).map Clause.toJson

/-- Whether a setter is accepted, and the search that is compiled after it says just this about the
field in the section. -/
def Setter.Yields (setter : Setter) (draft : Draft) (target : Section) (field : String)
    (json : Json) : Prop :=
  ∃ next, setter.apply draft = .ok next ∧ ∀ table, draft.table = some table →
    ∃ search, next.compile = .ok search ∧ search.body.query.writtenAbout target field = [json]

theorem Draft.clausesIn_withPredicate (draft : Draft) (target : Section) (field : String)
    (predicate : Predicate) :
    ((draft.withPredicate target field predicate).query.clausesIn target).filter
      (fun clause => clause.field = field) = [⟨field, predicate⟩] := by
  let conditions := (draft.conditions target).insert field predicate
  have only : conditions.entries.filter (fun entry => entry.1 = field) = [(field, predicate)] :=
    Entries.filter_of_get?_eq_some conditions.distinct (OrderedMap.get?_insert_self ..)
  rw [withPredicate, clausesIn_query, conditions_withConditions_self, clauses, List.filter_map]
  change (conditions.entries.filter fun entry => entry.1 = field).map _ = _
  rw [only]
  rfl

namespace Setter

theorem yields_of_apply {setter : Setter} {draft : Draft} {target : Section} {field : String}
    {predicate : Predicate}
    (applied : setter.apply draft = .ok (draft.withPredicate target field predicate)) :
    setter.Yields draft target field (Clause.toJson ⟨field, predicate⟩) := by
  refine ⟨_, applied, ?_⟩
  intro table selected
  have kept : (draft.withPredicate target field predicate).table = some table := by
    rw [Draft.withPredicate, Draft.table_withConditions, selected]
  refine ⟨_, Draft.compile_of_some kept, ?_⟩
  rw [Query.writtenAbout, Draft.clausesIn_withPredicate]
  rfl

/-- The range that compares by an ordering operator. -/
theorem compare_eq_new {text : String} {operator : Operator} {side : Side} {value : Json}
    {bound : Bound} (known : Operator.ofText text = .ok operator)
    (ordering : operator.side? = some side) (converted : Bound.ofValue value = .ok bound)
    (field : String) :
    compare field text value =
      Condition.new field (.range (Bounds.unbounded.set side bound)) := by
  have allowed : operator.unchecked value =
      .ok (.range (Bounds.unbounded.set side bound)) := by
    rw [Operator.unchecked_of_side ordering, converted]
    rfl
  have passed : (Predicate.range (Bounds.unbounded.set side bound)).validate = .ok () :=
    Predicate.validate_eq_ok_iff.mpr ⟨side, bound, Bounds.get_set_self ..⟩
  simp [compare, known, Condition.compare, Operator.predicate, allowed, passed, bind, Except.bind,
    pure, Except.pure]

end Setter

theorem Bounds.toJson_set_unbounded (side : Side) (bound : Bound) :
    (unbounded.set side bound).toJson = .object [(side.name, bound.toJson)] := by
  cases side <;> rfl

/-- The number that an integer becomes as a bound. -/
theorem Bound.exists_number_of_integer {value : Int}
    (bounded : -9223372036854775808 ≤ value ∧ value < 18446744073709551616) :
    ∃ bound number, ofValue (.number (.integer value bounded)) = .ok bound ∧
      bound.toJson = .number number ∧ (number = .integer value bounded ↔ value < 2 ^ 63) ∧
      (2 ^ 63 ≤ value → number.Denotes (Binary64.roundQuotient value.toNat 2048 * 2048 : Nat)) := by
  obtain narrow | wide := Int.lt_or_le value (2 ^ 63)
  · have least : value ≤ Int64.maxValue.toInt := Int.le_of_lt_add_one narrow
    have kept : (Int64.ofInt value).toInt = value := Int64.toInt_ofInt_of_le bounded.1 narrow
    refine ⟨.long (Int64.ofInt value), .integer value bounded, ?_, ?_, iff_of_true rfl narrow,
      fun wide => absurd narrow (Int.not_lt.mpr wide)⟩
    · rw [ofValue, if_pos least]
    · rw [toJson, Number.ofInt64]
      congr
  · have whole := Binary64.isWhole_ofInt_of_wide wide bounded.2
    refine ⟨.double (Binary64.ofInt value), .double _ whole.finite, ?_, ?_,
      iff_of_false (fun same => by cases same) (Int.not_lt.mpr wide), ?_⟩
    · rw [ofValue, if_neg (Int.not_le.mpr wide)]
    · rw [toJson, Json.ofBinary64, Number.ofBinary64?, dif_pos whole.finite]
    · intro _
      exact whole.signedUnits.trans (by push_cast; rfl)

namespace Number

theorem Denotes.unique {number : Number} {first second : Int} (denotes : number.Denotes first)
    (alsoDenotes : number.Denotes second) : first = second := by
  cases number with
  | integer written bounded => exact denotes.symm.trans alsoDenotes
  | double written finite =>
      have positive : (Binary64.unitsPerOne : Int) ≠ 0 := Int.ofNat_ne_zero.mpr (by decide)
      exact Int.eq_of_mul_eq_mul_right positive (denotes.symm.trans alsoDenotes)

/-- A multiple of `2048` is its own nearest one, and no other integer is. -/
theorem denotes_iff_dvd {number : Number} {value : Int} (nonnegative : 0 ≤ value)
    (nearest : number.Denotes (Binary64.roundQuotient value.toNat 2048 * 2048 : Nat)) :
    number.Denotes value ↔ 2048 ∣ value := by
  have natural : (value.toNat : Int) = value := Int.toNat_of_nonneg nonnegative
  have divides : (2048 : Int) ∣ value ↔ 2048 ∣ value.toNat := by
    rw [← natural]
    exact Int.natCast_dvd_natCast
  rw [divides, ← Binary64.roundQuotient_mul_eq_iff (by decide)]
  constructor
  · intro denotes
    have same := nearest.unique denotes
    omega
  · intro same
    rw [same, natural] at nearest
    exact nearest

end Number

/-- The clause that bounds a field on one side. -/
def Json.boundedOn (field : String) (side : Side) (number : Number) : Json :=
  .object [("range", .object [(field, .object [(side.name, .number number)])])]

namespace Setter

theorem add_new {field : String} (named : field ≠ "") (predicate : Predicate)
    (wellFormed : predicate.IsWellFormed) (draft : Draft) (target : Section) :
    apply.add draft target (Condition.new field predicate) =
      .ok (draft.withPredicate target field predicate) :=
  add_eq_ok_iff.mpr ⟨⟨named, wellFormed⟩, rfl⟩

/-- A comparison whose value becomes a number as a bound bounds its field by this number. -/
theorem yields_boundedOn {text : String} {operator : Operator} {side : Side} {value : Json}
    {bound : Bound} {number : Number} {field : String}
    (known : Operator.ofText text = .ok operator) (ordering : operator.side? = some side)
    (converted : Bound.ofValue value = .ok bound) (written : bound.toJson = .number number)
    (named : field ≠ "") (draft : Draft) :
    (mustCompare field text value).Yields draft .must field (.boundedOn field side number) ∧
      (shouldCompare field text value).Yields draft .should field
        (.boundedOn field side number) := by
  have range : Clause.toJson ⟨field, .range (Bounds.unbounded.set side bound)⟩ =
      .boundedOn field side number := by
    rw [Clause.toJson, Predicate.argument, Bounds.toJson_set_unbounded, written]
    rfl
  have compared := compare_eq_new known ordering converted field
  have wellFormed : (Predicate.range (Bounds.unbounded.set side bound)).IsWellFormed :=
    ⟨side, bound, Bounds.get_set_self ..⟩
  rw [← range]
  constructor
  · apply yields_of_apply
    rw [apply, compared]
    exact add_new named _ wellFormed draft .must
  · apply yields_of_apply
    rw [apply, compared]
    exact add_new named _ wellFormed draft .should

/-- A comparison of a named field with an integer is accepted, and puts one bound on the side of its
operator.  The bound is the integer itself exactly below `2 ^ 63`, and from there on a double, which
is the nearest multiple of `2048`; a match and a filter have the integer in any case. -/
theorem integer_kept_iff {text : String} {operator : Operator} {side : Side}
    (known : Operator.ofText text = .ok operator) (ordering : operator.side? = some side)
    (draft : Draft) (field : String) (value : Int)
    (bounded : -9223372036854775808 ≤ value ∧ value < 18446744073709551616) :
    let operand : Json := .number (.integer value bounded)
    (field = "" →
      ∀ setter ∈ [mustCompare field text operand, shouldCompare field text operand,
        must field operand, filter field operand], setter.apply draft = .error .emptyField) ∧
    (field ≠ "" →
      (must field operand).Yields draft .must field
        (.object [("match", .object [(field, operand)])]) ∧
      (filter field operand).Yields draft .filter field
        (.object [("term", .object [(field, operand)])]) ∧
      ∃ number,
        ((mustCompare field text operand).Yields draft .must field
            (.boundedOn field side number) ∧
          (shouldCompare field text operand).Yields draft .should field
            (.boundedOn field side number)) ∧
        (number.Denotes value ↔ value < 2 ^ 63 ∨ 2048 ∣ value) ∧
        (.number number = operand ↔ value < 2 ^ 63) ∧
        (2 ^ 63 ≤ value →
          number.Denotes (Binary64.roundQuotient value.toNat 2048 * 2048 : Nat))) := by
  intro operand
  obtain ⟨bound, number, converted, written, narrow, wide⟩ :=
    Bound.exists_number_of_integer bounded
  constructor
  · rintro rfl setter listed
    simp only [List.mem_cons, List.not_mem_nil, or_false] at listed
    rcases listed with rfl | rfl | rfl | rfl
    · rw [apply, compare_eq_new known ordering converted]
      rfl
    · rw [apply, compare_eq_new known ordering converted]
      rfl
    · rfl
    · rfl
  · intro named
    have required : (must field operand).apply draft = .ok _ :=
      add_new named (.matches operand) trivial draft .must
    have filtered : (filter field operand).apply draft = .ok _ :=
      add_new named (.term operand) trivial draft .filter
    refine ⟨yields_of_apply required, yields_of_apply filtered, number,
      yields_boundedOn known ordering converted written named draft, ?_, ?_, wide⟩
    · obtain small | large := Int.lt_or_le value (2 ^ 63)
      · rw [narrow.mpr small]
        exact iff_of_true rfl (.inl small)
      · rw [Number.denotes_iff_dvd (by omega) (wide large)]
        exact ⟨.inr, fun either => either.resolve_left (Int.not_lt.mpr large)⟩
    · rw [← narrow]
      exact ⟨Json.number.inj, congrArg Json.number⟩

/-- A draft that has selected a table and bounded the age from above already. -/
def agedDraft : Draft :=
  { Draft.empty with
    table := some "users"
    must := .ofList [("age", .range (Bounds.unbounded.set .lt (.long 90)))] }

/-- The last integer with a sign and a multiple of `2048` beyond it are kept. -/
theorem integer_kept_iff_agedDraft :
    (∃ number,
      (mustCompare "age" " GTE " (.number (.ofUInt64 9223372036854775807))).Yields agedDraft .must
        "age" (.boundedOn "age" .gte number) ∧
      number.Denotes 9223372036854775807) ∧
    ∃ number,
      (shouldCompare "age" "<" (.number (.ofUInt64 9223372036854777856))).Yields agedDraft .should
        "age" (.boundedOn "age" .lt number) ∧
      number.Denotes 9223372036854777856 := by
  have atLeast : Operator.ofText " GTE " = .ok .gte := by decide +kernel
  have below : Operator.ofText "<" = .ok .lt := by decide +kernel
  obtain ⟨_, _, last, ⟨required, _⟩, lastKept, _⟩ :=
    (integer_kept_iff atLeast rfl agedDraft "age" 9223372036854775807 (by decide)).2 (by decide)
  obtain ⟨_, _, next, ⟨_, preferred⟩, nextKept, _⟩ :=
    (integer_kept_iff below rfl agedDraft "age" 9223372036854777856 (by decide)).2 (by decide)
  exact ⟨⟨last, required, lastKept.mpr (.inl (by decide))⟩,
    next, preferred, nextKept.mpr (.inr (by decide))⟩

/-- An integer that takes 64 bits and is no multiple of `2048` becomes another one. -/
theorem not_kept_of_odd :
    ∃ number,
      (mustCompare "n" ">" (.number (.ofUInt64 9223372036854775809))).Yields agedDraft .must "n"
        (.boundedOn "n" .gt number) ∧
      number.Denotes 9223372036854775808 ∧ ¬number.Denotes 9223372036854775809 := by
  have known : Operator.ofText ">" = .ok .gt := by decide +kernel
  have converted : Bound.ofValue (.number (.ofUInt64 9223372036854775809)) =
      .ok (.double ⟨0x43E0000000000000⟩) := by decide +kernel
  have units : (Binary64.mk 0x43E0000000000000).signedUnits =
      9223372036854775808 * Binary64.unitsPerOne := by decide +kernel
  let number : Number := .double ⟨0x43E0000000000000⟩ (by decide)
  have denotes : number.Denotes 9223372036854775808 := units
  exact ⟨number, (yields_boundedOn known rfl converted rfl (by decide) agedDraft).1, denotes,
    fun wrong => absurd (wrong.unique denotes) (by decide)⟩

end Setter

end DocumentSearch
