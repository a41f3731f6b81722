import DocumentSearch.Proofs.Conditions
import DocumentSearch.Proofs.Rows
import DocumentSearch.Proofs.WholeNumbers
import DocumentSearch.Query.Clause

/-!
# Conditions in written form

The check of a condition looks at its predicate, while the engine gets the written form of it.  The
two agree about scalars and sets of scalars.  They differ about ranges: a bound that is no finite
number passes the check and is written as `null`.  Bounds that were read or converted from values
are always finite, so this can happen only to doubles that are given as such.
-/

namespace DocumentSearch

namespace Json

mutual

/-- Whether `null` stands nowhere in a value. -/
def NullFree : Json → Prop
  | .null => False
  | .bool _ | .number _ | .string _ => True
  | .array items => NullFreeItems items
  | .object entries => NullFreeEntries entries

/-- Whether `null` stands nowhere in a list of values. -/
def NullFreeItems : List Json → Prop
  | [] => True
  | item :: rest => NullFree item ∧ NullFreeItems rest

/-- Whether `null` stands nowhere in the values of entries. -/
def NullFreeEntries : List (String × Json) → Prop
  | [] => True
  | (_, value) :: rest => NullFree value ∧ NullFreeEntries rest

end

theorem nullFree_array_iff {items : List Json} :
    (array items).NullFree ↔ ∀ item ∈ items, item.NullFree := by
  rw [NullFree]
  induction items with
  | nil => simp [NullFreeItems]
  | cons item rest ih => simp [NullFreeItems, ih]

theorem nullFree_object_iff {entries : List (String × Json)} :
    (object entries).NullFree ↔ ∀ entry ∈ entries, entry.2.NullFree := by
  rw [NullFree]
  induction entries with
  | nil => simp [NullFreeEntries]
  | cons entry rest ih => simp [NullFreeEntries, ih]

theorem nullFree_object_singleton_iff {key : String} {value : Json} :
    (object [(key, value)]).NullFree ↔ value.NullFree := by
  simp [nullFree_object_iff]

theorem IsScalar.nullFree {value : Json} (scalar : value.IsScalar) : value.NullFree := by
  cases value with
  | null | array items | object entries => exact scalar.elim
  | bool _ | number _ | string _ => simp [NullFree]

/-- Whether a value can be compared with by order. -/
def IsOrderable : Json → Prop
  | .number _ | .string _ => True
  | .null | .bool _ | .array _ | .object _ => False

theorem IsOrderable.isScalar {value : Json} (orderable : value.IsOrderable) : value.IsScalar := by
  cases value with
  | null | bool _ | array items | object entries => exact orderable.elim
  | number _ | string _ => trivial

/-- What may stand under each kind of predicate: a scalar, one or more scalars, or bounds on one or
more sides. -/
def IsArgument : String → Json → Prop
  | "match", value | "term", value => value.IsScalar
  | "terms", .array items => items ≠ [] ∧ ∀ item ∈ items, item.IsScalar
  | "range", .object entries =>
      entries ≠ [] ∧ (Entries.keys entries).Nodup ∧
        ∀ entry ∈ entries, entry.1 ∈ ["gt", "gte", "lt", "lte"] ∧ entry.2.IsOrderable
  | _, _ => False

/-- Whether a value is a clause of the engine's language: an object with one key, which names the
kind of predicate, over an object with one key, which names the field. -/
def IsClause (kind field : String) (json : Json) : Prop :=
  ∃ argument, json = .object [(kind, .object [(field, argument)])] ∧ IsArgument kind argument

end Json

/-! ## Finite bounds -/

/-- Whether a bound is no double, or a finite one. -/
def Bound.IsFinite : Bound → Prop
  | .double value => value.isFinite = true
  | .long _ | .string _ => True

/-- Whether every bound that is set is finite. -/
def Bounds.IsFinite (bounds : Bounds) : Prop :=
  ∀ side bound, bounds.get side = some bound → bound.IsFinite

/-- Whether a predicate is not a range, or one with finite bounds. -/
def Predicate.IsFinite : Predicate → Prop
  | .range bounds => bounds.IsFinite
  | .matches _ | .term _ | .terms _ => True

namespace Bound

theorem toJson_double {value : Binary64} (finite : value.isFinite = true) :
    (double value).toJson = .number (.double value finite) := by
  rw [toJson, Json.ofBinary64, Number.ofBinary64?, dif_pos finite]

/-- A finite bound is written as a number or a text, and any other as `null`. -/
theorem toJson_cases (bound : Bound) :
    bound.IsFinite ∧ bound.toJson.IsOrderable ∨ ¬bound.IsFinite ∧ bound.toJson = .null := by
  cases bound with
  | long value | string value => exact .inl ⟨trivial, trivial⟩
  | double value =>
      by_cases finite : value.isFinite = true
      · exact .inl ⟨finite, by rw [toJson_double finite]; trivial⟩
      · exact .inr ⟨finite, by rw [toJson, Json.ofBinary64, Number.ofBinary64?, dif_neg finite]⟩

theorem toJson_eq_null_iff {bound : Bound} : bound.toJson = .null ↔ ¬bound.IsFinite := by
  obtain ⟨finite, orderable⟩ | ⟨infinite, null⟩ := bound.toJson_cases
  · refine iff_of_false (fun null => ?_) (not_not_intro finite)
    rw [null] at orderable
    exact orderable
  · exact iff_of_true null infinite

theorem isOrderable_toJson_iff {bound : Bound} : bound.toJson.IsOrderable ↔ bound.IsFinite := by
  obtain ⟨finite, orderable⟩ | ⟨infinite, null⟩ := bound.toJson_cases
  · exact iff_of_true orderable finite
  · rw [null]
    exact iff_of_false id infinite

theorem nullFree_toJson_iff {bound : Bound} : bound.toJson.NullFree ↔ bound.IsFinite := by
  obtain ⟨finite, orderable⟩ | ⟨infinite, null⟩ := bound.toJson_cases
  · exact iff_of_true orderable.isScalar.nullFree finite
  · rw [null, Json.NullFree]
    exact iff_of_false id infinite

/-- An integer that becomes a double as a bound takes 64 bits, and is near a finite one. -/
theorem isFinite_ofInt {value : Int} (bounded : value < 18446744073709551616)
    (wide : ¬value ≤ Int64.maxValue.toInt) : (Binary64.ofInt value).isFinite = true := by
  have large : (2 ^ 63 - 1 : Int) < value := Int.not_le.mp wide
  exact (Binary64.isWhole_ofInt_of_wide (by omega) bounded).finite

theorem isFinite_of_ofValue {json : Json} {bound : Bound} (converted : ofValue json = .ok bound) :
    bound.IsFinite := by
  cases json with
  | null | bool _ | array items | object entries => cases converted
  | string value =>
      cases converted
      trivial
  | number number =>
      cases number with
      | double value finite =>
          cases converted
          exact finite
      | integer value bounded =>
          rw [ofValue] at converted
          split at converted
          · cases converted
            trivial
          · rename_i wide
            cases converted
            exact isFinite_ofInt bounded.2 wide

theorem isFinite_of_ofJson? {json : Json} {bound : Bound} (decoded : ofJson? json = some bound) :
    bound.IsFinite := by
  cases json with
  | null | bool _ | array items | object entries => cases decoded
  | string value =>
      cases decoded
      trivial
  | number number =>
      cases number with
      | double value finite =>
          cases decoded
          exact finite
      | integer value bounded =>
          by_cases narrow : value ≤ Int64.maxValue.toInt
          · simp [ofJson?, Json.asInt64?, Json.asInt?, narrow] at decoded
            cases decoded
            trivial
          · simp [ofJson?, Json.asInt64?, Json.asInt?, narrow] at decoded
            cases decoded
            exact isFinite_ofInt bounded.2 narrow

end Bound

theorem Side.name_injective : Function.Injective Side.name := by
  intro side other same
  cases side <;> cases other <;> first | rfl | simp [name] at same

namespace Bounds

/-- The sides that are set, with what is written for them. -/
def entries (bounds : Bounds) : List (String × Json) :=
  Side.all.filterMap fun side => (bounds.get side).map fun bound => (side.name, bound.toJson)

theorem toJson_eq (bounds : Bounds) : bounds.toJson = .object bounds.entries := rfl

theorem mem_entries_iff {bounds : Bounds} {entry : String × Json} :
    entry ∈ bounds.entries ↔
      ∃ side bound, bounds.get side = some bound ∧ entry = (side.name, bound.toJson) := by
  rw [entries, List.mem_filterMap]
  constructor
  · rintro ⟨side, _, written⟩
    obtain ⟨bound, found, rfl⟩ := Option.map_eq_some_iff.mp written
    exact ⟨side, bound, found, rfl⟩
  · rintro ⟨side, bound, found, rfl⟩
    exact ⟨side, side.mem_all, by rw [found]; rfl⟩

theorem nodup_keys_entries (bounds : Bounds) : (Entries.keys bounds.entries).Nodup := by
  have keys : Entries.keys bounds.entries =
      Side.all.filterMap fun side => (bounds.get side).map fun _ => side.name := by
    rw [Entries.keys, entries, List.map_filterMap]
    congr 1
    funext side
    exact Option.map_map ..
  rw [keys]
  refine List.Nodup.filterMap ?_ (by decide)
  intro side other name named otherNamed
  obtain ⟨_, _, rfl⟩ := Option.map_eq_some_iff.mp named
  obtain ⟨_, _, same⟩ := Option.map_eq_some_iff.mp otherNamed
  exact Side.name_injective same.symm

theorem get?_entries (bounds : Bounds) (side : Side) :
    Entries.get? side.name bounds.entries = (bounds.get side).map Bound.toJson := by
  ext json
  rw [← Entries.mem_iff_get?_eq_some bounds.nodup_keys_entries, mem_entries_iff,
    Option.map_eq_some_iff]
  constructor
  · rintro ⟨other, bound, found, same⟩
    rw [Prod.mk.injEq] at same
    rw [Side.name_injective same.1]
    exact ⟨bound, found, same.2.symm⟩
  · rintro ⟨bound, found, rfl⟩
    exact ⟨side, bound, found, rfl⟩

/-- A range is well written when it has bounds and all of them are finite. -/
theorem isArgument_toJson_iff {bounds : Bounds}
    (bounded : ∃ side bound, bounds.get side = some bound) :
    Json.IsArgument "range" bounds.toJson ↔ bounds.IsFinite := by
  rw [toJson_eq, Json.IsArgument]
  constructor
  · rintro ⟨_, _, orderable⟩ side bound found
    exact Bound.isOrderable_toJson_iff.mp
      (orderable _ (mem_entries_iff.mpr ⟨side, bound, found, rfl⟩)).2
  · intro finite
    obtain ⟨side, bound, found⟩ := bounded
    have written := mem_entries_iff.mpr ⟨side, bound, found, rfl⟩
    refine ⟨List.ne_nil_of_mem written, bounds.nodup_keys_entries, ?_⟩
    intro entry member
    obtain ⟨side, bound, found, rfl⟩ := mem_entries_iff.mp member
    exact ⟨by cases side <;> simp [Side.name],
      Bound.isOrderable_toJson_iff.mpr (finite side bound found)⟩

theorem nullFree_toJson_iff {bounds : Bounds} : bounds.toJson.NullFree ↔ bounds.IsFinite := by
  rw [toJson_eq, Json.nullFree_object_iff]
  constructor
  · intro nullFree side bound found
    exact Bound.nullFree_toJson_iff.mp
      (nullFree _ (mem_entries_iff.mpr ⟨side, bound, found, rfl⟩))
  · intro finite entry member
    obtain ⟨side, bound, found, rfl⟩ := mem_entries_iff.mp member
    exact Bound.nullFree_toJson_iff.mpr (finite side bound found)

theorem IsFinite.set {bounds : Bounds} (finite : bounds.IsFinite) (side : Side) {bound : Bound}
    (boundFinite : bound.IsFinite) : (bounds.set side bound).IsFinite := by
  intro other found held
  by_cases same : other = side
  · subst same
    rw [get_set_self] at held
    cases held
    exact boundFinite
  · rw [get_set_of_ne bounds bound same] at held
    exact finite other found held

theorem isFinite_unbounded : unbounded.IsFinite := by
  intro side bound found
  cases side <;> cases found

theorem ofJson?_eq_some_iff {json : Json} {bounds : Bounds} :
    ofJson? json = some bounds ↔
      ∃ row, Json.Row.ofJson? fields json = some row ∧
        ∀ side : Side, row.optional? side.name Bound.ofJson? = some (bounds.get side) := by
  simp only [ofJson?, Option.bind_eq_bind, Option.bind_eq_some_iff]
  constructor
  · rintro ⟨row, given, gt, gtRead, gte, gteRead, lt, ltRead, lte, lteRead, same⟩
    cases same
    refine ⟨row, given, fun side => ?_⟩
    cases side with
    | gt => exact gtRead
    | gte => exact gteRead
    | lt => exact ltRead
    | lte => exact lteRead
  · rintro ⟨row, given, sides⟩
    exact ⟨row, given, _, sides .gt, _, sides .gte, _, sides .lt, _, sides .lte, rfl⟩

theorem isFinite_of_ofJson? {json : Json} {bounds : Bounds} (decoded : ofJson? json = some bounds) :
    bounds.IsFinite := by
  obtain ⟨row, _, sides⟩ := ofJson?_eq_some_iff.mp decoded
  intro side bound found
  have read := sides side
  rw [found] at read
  obtain ⟨json, _, _, boundRead⟩ := Json.Row.optional?_eq_some_some_iff.mp read
  exact Bound.isFinite_of_ofJson? boundRead

theorem isFinite_of_ofText {text : String} {bounds : Bounds} (decoded : ofText text = .ok bounds) :
    bounds.IsFinite := by
  obtain ⟨json, _, taken⟩ := bind_eq_ok.mp decoded
  split at taken
  · rename_i value found
    cases taken
    exact isFinite_of_ofJson? found
  · cases taken

/-- Exactly the sides whose bound is no finite number are written as `null`. -/
theorem member?_toJson_eq_null_iff {bounds : Bounds} {side : Side} :
    bounds.toJson.member? side.name = some .null ↔
      ∃ bound, bounds.get side = some bound ∧ ¬bound.IsFinite := by
  have written : bounds.toJson.member? side.name = (bounds.get side).map Bound.toJson :=
    bounds.get?_entries side
  rw [written, Option.map_eq_some_iff]
  simp only [Bound.toJson_eq_null_iff]

end Bounds

namespace Json

theorem isClause_iff {kind field : String} {argument : Json} :
    (object [(kind, .object [(field, argument)])]).IsClause kind field ↔
      IsArgument kind argument := by
  constructor
  · rintro ⟨other, same, isArgument⟩
    simp only [object.injEq, List.cons.injEq, Prod.mk.injEq, and_true, true_and] at same
    rw [same]
    exact isArgument
  · intro isArgument
    exact ⟨argument, rfl, isArgument⟩

end Json

namespace Predicate

theorem isArgument_argument_iff {predicate : Predicate} (wellFormed : predicate.IsWellFormed) :
    Json.IsArgument predicate.kind predicate.argument ↔ predicate.IsFinite := by
  cases predicate with
  | «matches» value | term value => exact iff_of_true wellFormed trivial
  | terms values => exact iff_of_true wellFormed trivial
  | range bounds => exact Bounds.isArgument_toJson_iff wellFormed

theorem nullFree_argument_iff {predicate : Predicate} (wellFormed : predicate.IsWellFormed) :
    predicate.argument.NullFree ↔ predicate.IsFinite := by
  cases predicate with
  | «matches» value | term value =>
      exact iff_of_true (Json.IsScalar.nullFree wellFormed) trivial
  | terms values =>
      refine iff_of_true (Json.nullFree_array_iff.mpr ?_) trivial
      intro value member
      exact (wellFormed.2 value member).nullFree
  | range bounds => exact Bounds.nullFree_toJson_iff

end Predicate

theorem Operator.isFinite_of_unchecked {operator : Operator} {value : Json} {predicate : Predicate}
    (allowed : operator.unchecked value = .ok predicate) : predicate.IsFinite := by
  unfold unchecked at allowed
  split at allowed
  · obtain ⟨bound, converted, rfl⟩ := map_eq_ok.mp allowed
    exact Bounds.isFinite_unbounded.set _ (Bound.isFinite_of_ofValue converted)
  · split at allowed
    · cases allowed
      trivial
    · cases allowed
      trivial
    · cases allowed
      cases value <;> trivial

namespace Condition

/-- The check of a condition and its written form agree when its bounds are finite. -/
theorem isClause_and_nullFree_iff {field : String} {predicate : Predicate} {condition : Condition}
    (made : new field predicate = .ok condition) :
    ((Clause.ofCondition condition).toJson.IsClause predicate.kind field ↔ predicate.IsFinite) ∧
      ((Clause.ofCondition condition).toJson.NullFree ↔ predicate.IsFinite) := by
  obtain ⟨⟨_, wellFormed⟩, rfl, rfl⟩ := new_eq_ok_iff.mp made
  refine ⟨Json.isClause_iff.trans (Predicate.isArgument_argument_iff wellFormed), ?_⟩
  rw [Clause.toJson, Json.nullFree_object_singleton_iff, Json.nullFree_object_singleton_iff]
  exact Predicate.nullFree_argument_iff wellFormed

/-- An accepted condition is a clause of the engine's language exactly when no bound of it is an
infinite or undefined double; such a bound, and nothing else, is written as `null`.  A range with
bounds that are decoded from text or converted from values has no such bound, and neither has a
comparison by an operator. -/
theorem is_clause_iff_finite {field : String} {predicate : Predicate} {condition : Condition}
    (made : new field predicate = .ok condition) :
    let json := (Clause.ofCondition condition).toJson
    (json.IsClause predicate.kind field ↔ predicate.IsFinite) ∧
    (json.NullFree ↔ predicate.IsFinite) ∧
    (∀ bounds, predicate = .range bounds →
      json = .object [("range", .object [(field, bounds.toJson)])] ∧
      (∀ side, bounds.toJson.member? side.name = some .null ↔
        ∃ value, bounds.get side = some (.double value) ∧ value.isFinite = false) ∧
      ((∃ text, Bounds.ofText text = .ok bounds) ∨
        (∀ side bound, bounds.get side = some bound →
          ∃ value, Bound.ofValue value = .ok bound) → predicate.IsFinite)) ∧
    ∀ operator value compared, compare field operator value = .ok compared →
      let json := (Clause.ofCondition compared).toJson
      json.IsClause compared.predicate.kind field ∧ json.NullFree := by
  intro json
  obtain ⟨isClause, nullFree⟩ := isClause_and_nullFree_iff made
  refine ⟨isClause, nullFree, ?_, ?_⟩
  · rintro bounds rfl
    obtain ⟨_, rfl, samePredicate⟩ := new_eq_ok_iff.mp made
    have clause : Clause.ofCondition condition = ⟨condition.field, .range bounds⟩ := by
      rw [Clause.ofCondition, samePredicate]
    refine ⟨congrArg Clause.toJson clause, ?_, ?_⟩
    · intro side
      rw [Bounds.member?_toJson_eq_null_iff]
      constructor
      · rintro ⟨bound, found, infinite⟩
        cases bound with
        | long value | string value => exact absurd trivial infinite
        | double value => exact ⟨value, found, Bool.eq_false_iff.mpr infinite⟩
      · rintro ⟨value, found, infinite⟩
        exact ⟨_, found, Bool.eq_false_iff.mp infinite⟩
    · rintro (⟨text, decoded⟩ | converted) side bound found
      · exact Bounds.isFinite_of_ofText decoded side bound found
      · obtain ⟨value, made⟩ := converted side bound found
        exact Bound.isFinite_of_ofValue made
  · intro operator value compared succeeded
    obtain ⟨predicate, allowed, made⟩ := compare_eq_ok_iff.mp succeeded
    obtain ⟨_, _, rfl⟩ := new_eq_ok_iff.mp made
    have finite := Operator.isFinite_of_unchecked allowed
    obtain ⟨isClause, nullFree⟩ := isClause_and_nullFree_iff made
    exact ⟨isClause.mpr finite, nullFree.mpr finite⟩

/-- A range above an infinite double and up to a text. -/
def infiniteBounds : Bounds :=
  (Bounds.unbounded.set .gt (.double (.infinity true))).set .lte (.string "9")

/-- A range above one and a half and below the double nearest to the greatest integer of JSON. -/
def decodedBounds : Bounds :=
  (Bounds.unbounded.set .gt (.double ⟨0x3FF8000000000000⟩)).set .lt (.double ⟨0x43F0000000000000⟩)

/-- The first range is accepted, but its clause holds `null`.  The second one comes from a text, and a
comparison is by the integer that is farthest from zero: both are finite. -/
theorem is_clause_iff_finite_infiniteBounds :
    (∃ condition, new "age" (.range infiniteBounds) = .ok condition ∧
      ¬(Clause.ofCondition condition).toJson.IsClause "range" "age" ∧
      infiniteBounds.toJson.member? "gt" = some .null ∧
      infiniteBounds.toJson.member? "lte" ≠ some .null) ∧
    (∃ condition, new "age" (.range decodedBounds) = .ok condition ∧
      (Clause.ofCondition condition).toJson.IsClause "range" "age") ∧
    ∃ condition, compare "age" .gt (.number (.ofUInt64 18446744073709551615)) = .ok condition ∧
      (Clause.ofCondition condition).toJson.NullFree := by
  have infinite : ¬infiniteBounds.IsFinite := fun finite =>
    absurd (finite .gt _ rfl) (by decide +kernel : ¬(Binary64.infinity true).isFinite = true)
  have read : Bounds.ofText "[1.5,null,18446744073709551615,null]" = .ok decodedBounds := by
    decide +kernel
  have accepted : ∃ condition, new "age" (.range infiniteBounds) = .ok condition := ⟨_, rfl⟩
  have alsoAccepted : ∃ condition, new "age" (.range decodedBounds) = .ok condition := ⟨_, rfl⟩
  obtain ⟨condition, made⟩ := accepted
  obtain ⟨other, alsoMade⟩ := alsoAccepted
  obtain ⟨isClause, _, range, compared⟩ := is_clause_iff_finite made
  obtain ⟨otherIsClause, _, otherRange, _⟩ := is_clause_iff_finite alsoMade
  obtain ⟨_, sides, _⟩ := range _ rfl
  refine ⟨⟨condition, made, fun clause => infinite (isClause.mp clause), ?_, ?_⟩,
    ⟨other, alsoMade, otherIsClause.mpr ((otherRange _ rfl).2.2 (.inl ⟨_, read⟩))⟩,
    ⟨_, rfl, (compared .gt (.number (.ofUInt64 18446744073709551615)) _ rfl).2⟩⟩
  · exact (sides .gt).mpr ⟨_, rfl, by decide +kernel⟩
  · intro null
    obtain ⟨value, found, _⟩ := (sides .lte).mp null
    cases found

/-- An undefined bound passes the check, and the clause that is sent for it holds `null`. -/
theorem not_isClause_of_nan :
    ∃ condition, new "age" (.range (Bounds.unbounded.set .gt (.double .nan))) = .ok condition ∧
      (Clause.ofCondition condition).toJson =
        .object [("range", .object [("age", .object [("gt", .null)])])] ∧
      ¬(Clause.ofCondition condition).toJson.IsClause "range" "age" ∧
      ¬(Clause.ofCondition condition).toJson.NullFree := by
  have written : (Clause.mk "age" (.range (Bounds.unbounded.set .gt (.double .nan)))).toJson =
      .object [("range", .object [("age", .object [("gt", .null)])])] := by decide +kernel
  refine ⟨_, rfl, written, ?_, ?_⟩
  · intro isClause
    rw [Clause.ofCondition, written, Json.isClause_iff] at isClause
    exact (isClause.2.2 _ (List.mem_singleton_self _)).2
  · intro nullFree
    rw [Clause.ofCondition, written] at nullFree
    simp [Json.NullFree, Json.NullFreeEntries] at nullFree

end Condition

end DocumentSearch
