import DocumentSearch.Proofs.OrderedMap
import DocumentSearch.Query.Acceptance

/-!
# The meaning of a compiled query

An engine that is given the query of a draft accepts exactly what the draft means.  How many optional
clauses it asks for is decided in two places, by the stated number and by the engine's own rule when
none is stated; `requiredShould_boolQuery` brings them together: one if nothing is required and
something is optional, and none otherwise.
-/

namespace DocumentSearch

namespace ConditionSet

theorem mem_clauses_iff (conditions : ConditionSet) (clause : Clause) :
    clause ∈ Draft.clauses conditions ↔ conditions.get? clause.field = some clause.predicate := by
  rw [← OrderedMap.mem_entries_iff, Draft.clauses, List.mem_map]
  constructor
  · rintro ⟨entry, member, rfl⟩
    exact member
  · intro member
    exact ⟨_, member, rfl⟩

theorem all_clauses_iff (conditions : ConditionSet) (holds : Clause → Bool) :
    (Draft.clauses conditions).all holds = true ↔ conditions.AllHold holds := by
  rw [List.all_eq_true]
  constructor
  · intro all field predicate found
    exact all ⟨field, predicate⟩ ((mem_clauses_iff conditions _).mpr found)
  · intro all clause member
    exact all clause.field clause.predicate ((mem_clauses_iff conditions clause).mp member)

theorem countP_clauses_pos_iff (conditions : ConditionSet) (holds : Clause → Bool) :
    0 < (Draft.clauses conditions).countP holds ↔ conditions.SomeHolds holds := by
  rw [List.countP_pos_iff]
  constructor
  · rintro ⟨clause, member, holding⟩
    exact ⟨clause.field, clause.predicate, (mem_clauses_iff conditions clause).mp member, holding⟩
  · rintro ⟨field, predicate, found, holding⟩
    exact ⟨⟨field, predicate⟩, (mem_clauses_iff conditions _).mpr found, holding⟩

theorem isEmpty_clauses (conditions : ConditionSet) :
    (Draft.clauses conditions).isEmpty = conditions.isEmpty := by
  simp [Draft.clauses, OrderedMap.isEmpty]

theorem allHold_of_isEmpty {conditions : ConditionSet} (empty : conditions.isEmpty = true)
    (holds : Clause → Bool) : conditions.AllHold holds := by
  rw [← isEmpty_clauses, List.isEmpty_iff] at empty
  rw [← all_clauses_iff, empty]
  rfl

end ConditionSet

namespace Draft

/-- One optional clause has to hold when nothing is required and something is optional, also beside
filters; otherwise none has to. -/
theorem requiredShould_boolQuery (draft : Draft) :
    draft.boolQuery.requiredShould =
      if draft.must.isEmpty && !draft.should.isEmpty then 1 else 0 := by
  unfold boolQuery BoolQuery.requiredShould
  rw [ConditionSet.isEmpty_clauses, ConditionSet.isEmpty_clauses, ConditionSet.isEmpty_clauses]
  cases draft.must.isEmpty <;> cases draft.should.isEmpty <;> cases draft.filter.isEmpty <;> rfl

theorem accepts_boolQuery_iff (draft : Draft) (holds : Clause → Bool) :
    draft.boolQuery.accepts holds = true ↔ draft.Means holds := by
  have enough : draft.boolQuery.requiredShould ≤ (clauses draft.should).countP holds ↔
      (draft.must.isEmpty = true → draft.should.isEmpty = false →
        draft.should.SomeHolds holds) := by
    rw [requiredShould_boolQuery, ← ConditionSet.countP_clauses_pos_iff]
    cases draft.must.isEmpty <;> cases draft.should.isEmpty <;> simp [Nat.succ_le_iff]
  unfold BoolQuery.accepts Means
  rw [Bool.and_eq_true, Bool.and_eq_true, decide_eq_true_eq, and_assoc]
  exact and_congr (ConditionSet.all_clauses_iff draft.must holds)
    (and_congr (ConditionSet.all_clauses_iff draft.filter holds) enough)

theorem hasConditions_eq_false_iff (draft : Draft) :
    draft.hasConditions = false ↔
      draft.must.isEmpty = true ∧ draft.should.isEmpty = true ∧ draft.filter.isEmpty = true := by
  simp [hasConditions, and_assoc]

theorem means_of_not_hasConditions {draft : Draft} (bare : draft.hasConditions = false)
    (holds : Clause → Bool) : draft.Means holds := by
  obtain ⟨mustEmpty, shouldEmpty, filterEmpty⟩ := draft.hasConditions_eq_false_iff.mp bare
  refine ⟨ConditionSet.allHold_of_isEmpty mustEmpty holds,
    ConditionSet.allHold_of_isEmpty filterEmpty holds, ?_⟩
  intro _ some
  rw [shouldEmpty] at some
  cases some

theorem accepts_query_iff (draft : Draft) (holds : Clause → Bool) :
    draft.query.accepts holds = true ↔ draft.Means holds := by
  unfold query
  split
  · exact draft.accepts_boolQuery_iff holds
  · rename_i bare
    exact iff_of_true rfl (means_of_not_hasConditions (Bool.eq_false_iff.mpr bare) holds)

/-- Beside required conditions the optional ones are not part of the meaning. -/
theorem means_withConditions_should_iff {draft : Draft} (required : draft.must.isEmpty = false)
    (others : ConditionSet) (holds : Clause → Bool) :
    (draft.withConditions .should others).Means holds ↔ draft.Means holds := by
  simp [Means, withConditions, required]

/-- The query of a draft accepts a document exactly when all required conditions and all filters hold
of it and, if nothing is required but something is optional, one of the optional conditions does.  So
optional conditions beside a required one never change what is accepted, whether they are added,
replaced or removed, and a draft without conditions accepts everything. -/
theorem acceptance_of_query :
    (∀ (draft : Draft) (holds : Clause → Bool),
      draft.query.accepts holds = true ↔
        draft.must.AllHold holds ∧ draft.filter.AllHold holds ∧
          (draft.must.isEmpty = true → draft.should.isEmpty = false →
            draft.should.SomeHolds holds)) ∧
    (∀ (draft : Draft) (others : ConditionSet) (holds : Clause → Bool),
      draft.must.isEmpty = false →
      (draft.withConditions .should others).query.accepts holds = draft.query.accepts holds) ∧
    ∀ (draft : Draft) (holds : Clause → Bool),
      draft.must.isEmpty = true → draft.should.isEmpty = true → draft.filter.isEmpty = true →
      draft.query.accepts holds = true := by
  refine ⟨accepts_query_iff, ?_, ?_⟩
  · intro draft others holds required
    rw [Bool.eq_iff_iff, accepts_query_iff, accepts_query_iff,
      means_withConditions_should_iff required]
  · intro draft holds mustEmpty shouldEmpty filterEmpty
    have bare := draft.hasConditions_eq_false_iff.mpr ⟨mustEmpty, shouldEmpty, filterEmpty⟩
    exact (accepts_query_iff draft holds).mpr (means_of_not_hasConditions bare holds)

/-- A draft that requires a title, prefers a state and filters by a year. -/
def preferring : Draft :=
  { empty with
    must := .ofList [("title", .matches (.string "storm"))]
    should := .ofList [("state", .term (.string "new")), ("tags", .terms [.bool true, .bool false])]
    filter := .ofList [("year", .range (Bounds.unbounded.set .gte (.long 2024)))] }

/-- What is preferred does not decide, and the draft in which nothing is set refuses nothing. -/
theorem acceptance_of_query_preferring :
    preferring.must.isEmpty = false ∧
      (preferring.withConditions .should .empty).query.accepts (fun clause => clause.field ≠ "state") =
        preferring.query.accepts (fun clause => clause.field ≠ "state") ∧
      empty.must.isEmpty = true ∧ empty.should.isEmpty = true ∧ empty.filter.isEmpty = true ∧
      empty.query.accepts (fun _ => false) = true :=
  ⟨rfl, acceptance_of_query.2.1 preferring .empty _ rfl, rfl, rfl, rfl,
    acceptance_of_query.2.2 empty _ rfl rfl rfl⟩

end Draft

end DocumentSearch
