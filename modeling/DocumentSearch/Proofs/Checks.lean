import DocumentSearch.Client
import Mathlib.Data.List.Forall2

/-!
# Passed checks

Arguments are checked one after the other, and the first refusal is the result.  A check that ended
well tells that every step before it ended well, and what the steps returned.
-/

namespace DocumentSearch

variable {ε α β : Type}

theorem bind_eq_ok {first : Except ε α} {next : α → Except ε β} {result : β} :
    (first >>= next) = .ok result ↔ ∃ value, first = .ok value ∧ next value = .ok result := by
  cases first with
  | error cause => simp [bind, Except.bind]
  | ok value => simp [bind, Except.bind]

theorem bind_eq_error {first : Except ε α} {next : α → Except ε β} {cause : ε} :
    (first >>= next) = .error cause ↔
      first = .error cause ∨ ∃ value, first = .ok value ∧ next value = .error cause := by
  cases first with
  | error fault => simp [bind, Except.bind]
  | ok value => simp [bind, Except.bind]

theorem map_eq_ok {first : Except ε α} {change : α → β} {result : β} :
    first.map change = .ok result ↔ ∃ value, first = .ok value ∧ change value = result := by
  cases first with
  | error cause => simp [Except.map]
  | ok value => simp [Except.map]

theorem map_eq_error {first : Except ε α} {change : α → β} {cause : ε} :
    first.map change = .error cause ↔ first = .error cause := by
  cases first <;> simp [Except.map]

theorem mapM_eq_ok_iff {step : α → Except ε β} {inputs : List α} {results : List β} :
    inputs.mapM step = .ok results ↔
      List.Forall₂ (fun input result => step input = .ok result) inputs results := by
  induction inputs generalizing results with
  | nil => simp [pure, Except.pure, eq_comm]
  | cons input rest ih =>
      simp only [List.mapM_cons, bind_eq_ok, ih, pure, Except.pure, Except.ok.injEq]
      constructor
      · rintro ⟨result, ended, others, passed, rfl⟩
        exact .cons ended passed
      · rintro (_ | ⟨ended, passed⟩)
        exact ⟨_, ended, _, passed, rfl⟩

theorem exists_of_mapM_eq_error {step : α → Except ε β} {inputs : List α} {cause : ε}
    (failed : inputs.mapM step = .error cause) : ∃ input ∈ inputs, step input = .error cause := by
  induction inputs with
  | nil => cases failed
  | cons input rest ih =>
      rw [List.mapM_cons, bind_eq_error] at failed
      obtain here | ⟨result, _, later⟩ := failed
      · exact ⟨input, List.mem_cons_self, here⟩
      · obtain there | ⟨results, _, ended⟩ := bind_eq_error.mp later
        · obtain ⟨other, member, same⟩ := ih there
          exact ⟨other, List.mem_cons_of_mem input member, same⟩
        · cases ended

/-- There is an error exactly when there is no value. -/
theorem exists_eq_error_iff {outcome : Except ε α} :
    (∃ cause, outcome = .error cause) ↔ ¬∃ value, outcome = .ok value := by
  cases outcome with
  | error cause => simp
  | ok value => simp

theorem exists_eq_ok_of_isOk {outcome : Except ε α} (passed : outcome.isOk = true) :
    ∃ value, outcome = .ok value := by
  cases outcome with
  | error cause => cases passed
  | ok value => exact ⟨value, rfl⟩

theorem guard_eq_ok {refused : Prop} [Decidable refused] {cause : ε} {next : Unit → Except ε α}
    {result : α} :
    (if refused then Except.error cause >>= next else next ()) = .ok result ↔
      ¬refused ∧ next () = .ok result := by
  split
  · rename_i refusal
    simp [refusal, bind, Except.bind]
  · rename_i passed
    simp [passed]

theorem Condition.new_eq_ok {field : String} {predicate : Predicate} {condition : Condition}
    (made : Condition.new field predicate = .ok condition) :
    condition.field = field ∧ condition.predicate = predicate := by
  unfold Condition.new at made
  split at made
  · cases made
  · split at made
    · cases made
    · cases made
      exact ⟨rfl, rfl⟩

namespace Setter

/-- The predicate that compares with a value by an operator that is given as text, if there is such
an operator and it allows the value. -/
def compared? (operator : String) (value : Json) : Option Predicate :=
  match Operator.ofText operator with
  | .ok operator => (operator.unchecked value).toOption
  | .error _ => none

theorem compare_eq_ok {field operator : String} {value : Json} {condition : Condition}
    (made : compare field operator value = .ok condition) :
    condition.field = field ∧ compared? operator value = some condition.predicate := by
  obtain ⟨known, knownOperator, compared⟩ := bind_eq_ok.mp made
  obtain ⟨predicate, allowed, built⟩ := bind_eq_ok.mp compared
  obtain ⟨unchecked, allowedUnchecked, validated⟩ := bind_eq_ok.mp allowed
  obtain ⟨_, _, samePredicate⟩ := bind_eq_ok.mp validated
  cases samePredicate
  obtain ⟨builtField, builtPredicate⟩ := Condition.new_eq_ok built
  refine ⟨builtField, ?_⟩
  simp [compared?, knownOperator, allowedUnchecked, Except.toOption, builtPredicate]

theorem filterCondition_eq_ok {field : String} {predicate : Predicate} {condition : Condition}
    (made : filterCondition field predicate = .ok condition) :
    condition.field = field ∧ condition.predicate = predicate ∧ predicate.isExact = true := by
  unfold filterCondition at made
  split at made
  · rename_i exactly
    obtain ⟨builtField, builtPredicate⟩ := Condition.new_eq_ok made
    exact ⟨builtField, builtPredicate, exactly⟩
  · cases made

end Setter

end DocumentSearch
