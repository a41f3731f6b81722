import DocumentSearch.Proofs.WellFormed

/-!
# Which conditions are accepted

A condition is accepted when its field has a name and its predicate is well formed.  For a value that
is given without a predicate this says that it is a scalar, or a list of scalars that is not empty.
An accepted setter of a condition then sets the predicate of its field in its section and nothing
else, so a search that is compiled afterwards has one clause on the field there.
-/

namespace DocumentSearch

/-- Whether a value can be compared with: a scalar, or scalars of which there is at least one. -/
def Json.IsOperand : Json → Prop
  | .array items => items ≠ [] ∧ ∀ item ∈ items, item.IsScalar
  | .null => False
  | .bool _ | .number _ | .string _ => True
  | .object _ => False

namespace Predicate

theorem isWellFormed_matching_iff {value : Json} :
    (matching value).IsWellFormed ↔ value.IsOperand := by
  cases value <;> rfl

theorem isWellFormed_exact_iff {value : Json} : (exact value).IsWellFormed ↔ value.IsOperand := by
  cases value <;> rfl

theorem isExact_exact (value : Json) : (exact value).isExact = true := by
  cases value <;> rfl

end Predicate

theorem Operator.unchecked_of_side {operator : Operator} {side : Side}
    (ordering : operator.side? = some side) (value : Json) :
    operator.unchecked value =
      (Bound.ofValue value).map fun bound => .range (Bounds.unbounded.set side bound) := by
  unfold unchecked
  rw [ordering]

namespace Condition

theorem new_eq_ok_iff {field : String} {predicate : Predicate} {condition : Condition} :
    new field predicate = .ok condition ↔
      (field ≠ "" ∧ predicate.IsWellFormed) ∧ condition.field = field ∧
        condition.predicate = predicate := by
  constructor
  · intro made
    obtain ⟨rfl, rfl⟩ := new_eq_ok made
    exact ⟨⟨condition.named, Predicate.validate_eq_ok_iff.mp condition.wellFormed⟩, rfl, rfl⟩
  · rintro ⟨⟨named, wellFormed⟩, sameField, samePredicate⟩
    have passed : predicate.validate = .ok () := Predicate.validate_eq_ok_iff.mpr wellFormed
    have made : new field predicate = .ok ⟨field, predicate, named, passed⟩ := by
      unfold new
      rw [dif_neg named]
      split
      · rename_i refused
        cases passed.symm.trans refused
      · rfl
    rw [made, Except.ok.injEq]
    exact ext sameField.symm samePredicate.symm

theorem compare_eq_ok_iff {field : String} {operator : Operator} {value : Json}
    {condition : Condition} :
    compare field operator value = .ok condition ↔
      ∃ predicate, operator.unchecked value = .ok predicate ∧
        new field predicate = .ok condition := by
  simp only [compare, Operator.predicate, bind_eq_ok, pure, Except.pure, Except.ok.injEq]
  constructor
  · rintro ⟨_, ⟨predicate, allowed, _, _, rfl⟩, made⟩
    exact ⟨predicate, allowed, made⟩
  · rintro ⟨predicate, allowed, made⟩
    have wellFormed := (new_eq_ok_iff.mp made).1.2
    exact ⟨predicate, ⟨predicate, allowed, (), Predicate.validate_eq_ok_iff.mpr wellFormed, rfl⟩, made⟩

end Condition

namespace Section

/-- The setter that puts a condition on a field into a section, when just a value is given. -/
def setter (target : Section) (field : String) (value : Json) : Setter :=
  match target with
  | .must => .must field value
  | .should => .should field value
  | .filter => .filter field value

/-- The predicate for a value in a section: filters compare exactly. -/
def predicate (target : Section) (value : Json) : Predicate :=
  match target with
  | .must | .should => .matching value
  | .filter => .exact value

theorem isWellFormed_predicate_iff (target : Section) {value : Json} :
    (target.predicate value).IsWellFormed ↔ value.IsOperand := by
  cases target with
  | must | should => exact Predicate.isWellFormed_matching_iff
  | filter => exact Predicate.isWellFormed_exact_iff

end Section

/-- The draft with a predicate for a field in a section. -/
def Draft.withPredicate (draft : Draft) (target : Section) (field : String)
    (predicate : Predicate) : Draft :=
  draft.withConditions target ((draft.conditions target).insert field predicate)

theorem Draft.conditions_withPredicate (draft : Draft) (target : Section) (field : String)
    (predicate : Predicate) (other : Section) :
    (draft.withPredicate target field predicate).conditions other =
      if other = target then (draft.conditions other).insert field predicate
      else draft.conditions other := by
  split
  · rename_i same
    rw [same, withPredicate, conditions_withConditions_self]
  · rename_i different
    rw [withPredicate, conditions_withConditions_of_ne _ _ different]

namespace Setter

theorem add_eq_ok_iff {draft next : Draft} {target : Section} {field : String}
    {predicate : Predicate} :
    apply.add draft target (Condition.new field predicate) = .ok next ↔
      (field ≠ "" ∧ predicate.IsWellFormed) ∧ next = draft.withPredicate target field predicate := by
  rw [apply.add, map_eq_ok]
  constructor
  · rintro ⟨condition, made, rfl⟩
    obtain ⟨checked, rfl, rfl⟩ := Condition.new_eq_ok_iff.mp made
    exact ⟨checked, rfl⟩
  · rintro ⟨⟨named, wellFormed⟩, rfl⟩
    have passed : predicate.validate = .ok () := Predicate.validate_eq_ok_iff.mpr wellFormed
    exact ⟨⟨field, predicate, named, passed⟩,
      Condition.new_eq_ok_iff.mpr ⟨⟨named, wellFormed⟩, rfl, rfl⟩, rfl⟩

/-- A condition on a value is accepted on a named field, when the value can be compared with. -/
theorem apply_setter_eq_ok_iff {target : Section} {field : String} {value : Json}
    {draft next : Draft} :
    (target.setter field value).apply draft = .ok next ↔
      (field ≠ "" ∧ value.IsOperand) ∧
        next = draft.withPredicate target field (target.predicate value) := by
  rw [← target.isWellFormed_predicate_iff]
  cases target with
  | must | should => exact add_eq_ok_iff
  | filter =>
      rw [Section.setter, apply, filterCondition, if_pos (Predicate.isExact_exact value)]
      exact add_eq_ok_iff

end Setter

end DocumentSearch
