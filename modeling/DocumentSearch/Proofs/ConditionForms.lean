import DocumentSearch.Proofs.WireForms

/-!
# Forms of one condition

A condition is written with a value alone or with an operator before the value.  Equality and
membership are other forms of a condition on a value alone: they are accepted for the same fields and
values and set the same predicate.  Only the orderings take another range of values.
-/

namespace DocumentSearch

namespace Operator

/-- The spellings of an operator in lower case. -/
def spellings : Operator → List String
  | .eq => ["=", "==", "eq"]
  | .gt => [">", "gt"]
  | .gte => [">=", "gte"]
  | .lt => ["<", "lt"]
  | .lte => ["<=", "lte"]
  | .isIn => ["in"]

/-- Whether a text spells an operator; case and surrounding white space do not matter. -/
def IsSpelled (operator : Operator) (text : String) : Prop :=
  Text.lowercase (Text.trim text) ∈ operator.spellings

instance (operator : Operator) (text : String) : Decidable (operator.IsSpelled text) :=
  inferInstanceAs (Decidable (_ ∈ operator.spellings))

theorem ofSpelling?_eq_some_iff {spelling : String} {operator : Operator} :
    ofSpelling? spelling = some operator ↔ spelling ∈ operator.spellings := by
  constructor
  · intro read
    unfold ofSpelling? at read
    repeat' split at read
    -- One spelling after the other, and none of them at last.
    all_goals cases read
    all_goals simpa [spellings] using ‹_›
  · intro listed
    cases operator <;> simp only [spellings, List.mem_cons, List.not_mem_nil, or_false] at listed
    case eq => rcases listed with rfl | rfl | rfl <;> rfl
    case isIn => exact listed ▸ rfl
    all_goals rcases listed with rfl | rfl <;> rfl

theorem ofText_eq_ok_iff {text : String} {operator : Operator} :
    ofText text = .ok operator ↔ operator.IsSpelled text := by
  rw [IsSpelled, ← ofSpelling?_eq_some_iff, ofText]
  cases ofSpelling? (Text.lowercase (Text.trim text)) <;> simp

end Operator

/-- The array of a value alone, unless the value is an array itself. -/
def Json.listed : Json → Json
  | .array items => .array items
  | value => .array [value]

/-- The predicate that compares exactly with the values of another one. -/
def Predicate.exactly : Predicate → Predicate
  | .matches value => .term value
  | predicate => predicate

/-- The setter that compares a field with a value in a section; filters are not written this way. -/
def Section.comparison? (target : Section) (field operator : String) (value : Json) :
    Option Setter :=
  match target with
  | .must => some (.mustCompare field operator value)
  | .should => some (.shouldCompare field operator value)
  | .filter => none

/-- Whether a client takes a setter. -/
def Client.Accepts (client : Client) (setter : Setter) : Prop :=
  ∃ next, client.set setter = .ok next

/-! ## Values -/

theorem Json.isOperand_listed_iff {value : Json} : value.listed.IsOperand ↔ value.IsOperand := by
  cases value <;> simp [listed, IsOperand, IsScalar]

theorem Bound.exists_ofValue_iff {value : Json} :
    (∃ bound, ofValue value = .ok bound) ↔ value.IsOrderable := by
  cases value with
  | null | bool _ | array _ | object _ => simp [ofValue, Json.IsOrderable]
  | string text => exact iff_of_true ⟨_, rfl⟩ trivial
  | number number =>
      refine iff_of_true ?_ trivial
      cases number with
      | double value finite => exact ⟨_, rfl⟩
      | integer value bounded =>
          rw [ofValue]
          split
          · exact ⟨_, rfl⟩
          · exact ⟨_, rfl⟩

theorem Predicate.exactly_matching (value : Json) : (matching value).exactly = exact value := by
  cases value <;> rfl

namespace Operator

theorem unchecked_eq (value : Json) : eq.unchecked value = .ok (.matching value) := rfl

theorem unchecked_isIn (value : Json) : isIn.unchecked value = .ok (.matching value.listed) := by
  cases value <;> rfl

theorem exists_unchecked_iff {operator : Operator} {side : Side}
    (ordering : operator.side? = some side) {value : Json} :
    (∃ predicate, operator.unchecked value = .ok predicate ∧ predicate.IsWellFormed) ↔
      value.IsOrderable := by
  rw [← Bound.exists_ofValue_iff, unchecked_of_side ordering]
  simp only [map_eq_ok]
  constructor
  · rintro ⟨_, ⟨bound, converted, _⟩, _⟩
    exact ⟨bound, converted⟩
  · rintro ⟨bound, converted⟩
    exact ⟨_, ⟨bound, converted, rfl⟩, side, bound, Bounds.get_set_self ..⟩

end Operator

/-! ## Setters -/

namespace Setter

variable {target : Section} {field text : String} {value : Json} {setter : Setter}

theorem apply_comparison (compares : target.comparison? field text value = some setter)
    (draft : Draft) :
    setter.apply draft = apply.add draft target (compare field text value) := by
  cases target <;> cases compares <;> rfl

theorem apply_comparison_eq_ok_iff (compares : target.comparison? field text value = some setter)
    {operator : Operator} (spelled : operator.IsSpelled text) {draft next : Draft} :
    setter.apply draft = .ok next ↔
      ∃ predicate, operator.unchecked value = .ok predicate ∧
        (field ≠ "" ∧ predicate.IsWellFormed) ∧ next = draft.withPredicate target field predicate := by
  have compared : compare field text value = Condition.compare field operator value := by
    rw [compare, Operator.ofText_eq_ok_iff.mpr spelled]
    rfl
  rw [apply_comparison compares, compared, apply.add, map_eq_ok]
  simp only [Condition.compare_eq_ok_iff]
  constructor
  · rintro ⟨condition, ⟨predicate, allowed, made⟩, rfl⟩
    exact ⟨predicate, allowed, add_eq_ok_iff.mp (map_eq_ok.mpr ⟨condition, made, rfl⟩)⟩
  · rintro ⟨predicate, allowed, checked⟩
    obtain ⟨condition, made, rfl⟩ := map_eq_ok.mp (add_eq_ok_iff.mpr checked)
    exact ⟨condition, ⟨predicate, allowed, made⟩, rfl⟩

/-- An operator that asks for a match makes a comparison another form of a condition on a value. -/
theorem apply_comparison_iff_setter (compares : target.comparison? field text value = some setter)
    {operator : Operator} (spelled : operator.IsSpelled text) {other : Json}
    (matched : operator.unchecked value = .ok (.matching other)) {draft next : Draft} :
    setter.apply draft = .ok next ↔ (target.setter field other).apply draft = .ok next := by
  have predicate : target.predicate other = .matching other := by
    cases target with
    | must | should => rfl
    | filter => cases compares
  rw [apply_comparison_eq_ok_iff compares spelled, apply_setter_eq_ok_iff, matched, predicate,
    ← Predicate.isWellFormed_matching_iff]
  simp only [Except.ok.injEq, exists_eq_left']

/-- A comparison by an ordering is accepted on a named field, when the value can be a bound. -/
theorem exists_apply_comparison_iff (compares : target.comparison? field text value = some setter)
    {operator : Operator} (spelled : operator.IsSpelled text) {side : Side}
    (ordering : operator.side? = some side) {draft : Draft} :
    (∃ next, setter.apply draft = .ok next) ↔ field ≠ "" ∧ value.IsOrderable := by
  simp only [apply_comparison_eq_ok_iff compares spelled]
  rw [← Operator.exists_unchecked_iff ordering]
  constructor
  · rintro ⟨_, predicate, allowed, ⟨named, wellFormed⟩, _⟩
    exact ⟨named, predicate, allowed, wellFormed⟩
  · rintro ⟨named, predicate, allowed, wellFormed⟩
    exact ⟨_, predicate, allowed, ⟨named, wellFormed⟩, rfl⟩

theorem apply_comparison_of_unspelled
    (compares : target.comparison? field text value = some setter)
    (unspelled : ∀ operator : Operator, ¬operator.IsSpelled text) (draft next : Draft) :
    setter.apply draft ≠ .ok next := by
  cases read : Operator.ofText text with
  | ok operator => exact absurd (Operator.ofText_eq_ok_iff.mp read) (unspelled operator)
  | error cause =>
      rw [apply_comparison compares, compare, read]
      exact fun accepted => nomatch accepted

end Setter

namespace Client

variable {client next : Client} {setter : Setter} {target : Section} {field text : String}
  {value : Json}

theorem set_eq_ok_iff :
    client.set setter = .ok next ↔
      ∃ draft, setter.apply client.draft = .ok draft ∧ { client with draft } = next :=
  map_eq_ok

theorem accepts_iff : client.Accepts setter ↔ ∃ draft, setter.apply client.draft = .ok draft := by
  simp only [Accepts, set_eq_ok_iff]
  constructor
  · rintro ⟨_, draft, applied, _⟩
    exact ⟨draft, applied⟩
  · rintro ⟨draft, applied⟩
    exact ⟨_, draft, applied, rfl⟩

theorem set_setter_eq_ok_iff (target : Section) :
    client.set (target.setter field value) = .ok next ↔
      (field ≠ "" ∧ value.IsOperand) ∧
        next = { client with
          draft := client.draft.withPredicate target field (target.predicate value) } := by
  simp only [set_eq_ok_iff, Setter.apply_setter_eq_ok_iff]
  constructor
  · rintro ⟨_, ⟨usable, rfl⟩, rfl⟩
    exact ⟨usable, rfl⟩
  · rintro ⟨usable, rfl⟩
    exact ⟨_, ⟨usable, rfl⟩, rfl⟩

theorem accepts_setter_iff (target : Section) :
    client.Accepts (target.setter field value) ↔ field ≠ "" ∧ value.IsOperand := by
  simp only [Accepts, set_setter_eq_ok_iff, exists_and_left, exists_eq, and_true]

theorem set_comparison_iff (compares : target.comparison? field text value = some setter)
    {operator : Operator} (spelled : operator.IsSpelled text) {other : Json}
    (matched : operator.unchecked value = .ok (.matching other)) (next : Client) :
    client.set setter = .ok next ↔ client.set (target.setter field other) = .ok next := by
  rw [set_eq_ok_iff, set_eq_ok_iff]
  exact exists_congr fun draft => and_congr_left fun _ =>
    Setter.apply_comparison_iff_setter compares spelled matched

/-- A condition on a value is accepted on a named field when the value is a scalar or a list of
scalars that is not empty, wherever it is put.  A comparison by equality or membership is accepted
likewise, and leaves what the condition on the value, or on the list of it, leaves; one by an ordering
is accepted for numbers and texts.  A filter sets the term where a requirement sets the match, and
otherwise the same.  What is set is the condition on the field in its section; the other conditions,
the table, the page and the counters stay.  Whatever is not accepted is refused as an invalid
argument. -/
theorem conditions_set_alike (client : Client) (field : String) (value : Json) :
    (∀ target : Section,
      client.Accepts (target.setter field value) ↔ field ≠ "" ∧ value.IsOperand) ∧
    (∀ target text setter, Section.comparison? target field text value = some setter →
      (Operator.eq.IsSpelled text →
        (client.Accepts setter ↔ field ≠ "" ∧ value.IsOperand) ∧
        ∀ next, client.set setter = .ok next ↔
          client.set (target.setter field value) = .ok next) ∧
      (Operator.isIn.IsSpelled text →
        (client.Accepts setter ↔ field ≠ "" ∧ value.IsOperand) ∧
        ∀ next, client.set setter = .ok next ↔
          client.set (target.setter field value.listed) = .ok next) ∧
      (∀ operator side, Operator.IsSpelled operator text → operator.side? = some side →
        (client.Accepts setter ↔ field ≠ "" ∧ value.IsOrderable)) ∧
      ((∀ operator : Operator, ¬operator.IsSpelled text) → ¬client.Accepts setter)) ∧
    (∀ next, client.set (.must field value) = .ok next →
      next = { client with
        draft := client.draft.withPredicate .must field (.matching value) } ∧
      client.set (.should field value) = .ok { client with
        draft := client.draft.withPredicate .should field (.matching value) } ∧
      client.set (.filter field value) = .ok { client with
        draft := client.draft.withPredicate .filter field (Predicate.matching value).exactly }) ∧
    (∀ target next, client.set (Section.setter target field value) = .ok next →
      (∀ other, next.draft.conditions other =
        if other = target then (client.draft.conditions other).insert field (target.predicate value)
        else client.draft.conditions other) ∧
      next.draft.table = client.draft.table ∧ next.draft.page = client.draft.page ∧
      next.tally = client.tally) ∧
    ∀ setter, ¬client.Accepts setter → ∃ cause : InvalidInput, client.set setter = .error cause := by
  refine ⟨accepts_setter_iff, ?_, ?_, ?_, ?_⟩
  · intro target text setter compares
    refine ⟨fun spelled => ?_, fun spelled => ?_, ?_, ?_⟩
    · have alike : ∀ next, client.set setter = .ok next ↔
          client.set (target.setter field value) = .ok next :=
        set_comparison_iff compares spelled (Operator.unchecked_eq value)
      exact ⟨(exists_congr alike).trans (accepts_setter_iff target), alike⟩
    · have alike : ∀ next, client.set setter = .ok next ↔
          client.set (target.setter field value.listed) = .ok next :=
        set_comparison_iff compares spelled (Operator.unchecked_isIn value)
      have accepts : client.Accepts setter ↔ field ≠ "" ∧ value.listed.IsOperand :=
        (exists_congr alike).trans (accepts_setter_iff target)
      rw [Json.isOperand_listed_iff] at accepts
      exact ⟨accepts, alike⟩
    · intro operator side spelled ordering
      exact accepts_iff.trans (Setter.exists_apply_comparison_iff compares spelled ordering)
    · rintro unspelled accepted
      obtain ⟨draft, applied⟩ := accepts_iff.mp accepted
      exact Setter.apply_comparison_of_unspelled compares unspelled client.draft draft applied
  · intro next accepted
    obtain ⟨usable, rfl⟩ := (set_setter_eq_ok_iff .must).mp accepted
    refine ⟨rfl, (set_setter_eq_ok_iff .should).mpr ⟨usable, rfl⟩, ?_⟩
    rw [Predicate.exactly_matching]
    exact (set_setter_eq_ok_iff .filter).mpr ⟨usable, rfl⟩
  · intro target next accepted
    obtain ⟨_, rfl⟩ := (set_setter_eq_ok_iff target).mp accepted
    exact ⟨client.draft.conditions_withPredicate target field _, Draft.table_withConditions ..,
      Draft.page_withConditions .., rfl⟩
  · intro setter refused
    exact exists_eq_error_iff.mpr refused

/-- Membership of one truth value is equality with the list of it.  A truth value is no bound, and an
operator has to be known. -/
theorem conditions_set_alike_active :
    (∃ next, new.set (.mustCompare "active" " IN " (.bool false)) = .ok next ∧
      new.set (.must "active" (.array [.bool false])) = .ok next) ∧
    (∃ next, new.set (.should "active" (.bool false)) = .ok next ∧
      new.set (.shouldCompare "active" "Eq" (.bool false)) = .ok next ∧
      (next.draft.conditions .should).entries = [("active", .matches (.bool false))] ∧
      next.draft.conditions .must = .empty) ∧
    new.Accepts (.filter "active" (.bool false)) ∧
    ¬new.Accepts (.shouldCompare "active" ">=" (.bool false)) ∧
    ∃ cause, new.set (.mustCompare "active" "!=" (.bool false)) = .error cause := by
  obtain ⟨accepts, compares, _, states, refused⟩ := conditions_set_alike new "active" (.bool false)
  have usable : "active" ≠ "" ∧ (Json.bool false).IsOperand := ⟨by decide, trivial⟩
  obtain ⟨_, membership, _⟩ := compares .must " IN " _ rfl
  obtain ⟨accepted, alike⟩ := membership (by decide +kernel)
  obtain ⟨next, set⟩ := accepted.mpr usable
  obtain ⟨equality, _⟩ := compares .should "Eq" _ rfl
  obtain ⟨_, same⟩ := equality (by decide +kernel)
  obtain ⟨asked, asks⟩ := (accepts .should).mpr usable
  obtain ⟨held, _⟩ := states .should asked asks
  obtain ⟨_, _, ordering, _⟩ := compares .should ">=" _ rfl
  obtain ⟨_, _, _, unspelled⟩ := compares .must "!=" _ rfl
  refine ⟨⟨next, set, (alike next).mp set⟩, ⟨asked, asks, (same asked).mpr asks, ?_, held .must⟩,
    (accepts .filter).mpr usable, ?_, refused _ (unspelled ?_)⟩
  · rw [held .should, if_pos rfl]
    rfl
  · intro bounded
    exact ((ordering .gte .gte (by decide +kernel) rfl).mp bounded).2
  · intro operator
    cases operator <;> decide +kernel

end Client

end DocumentSearch
