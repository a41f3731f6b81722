import DocumentSearch.Query.Compile

/-!
# Which documents a query accepts

What an engine makes of a query, for a document of which only the truth of every clause is known.
Beside it stands what the author of a draft means by it.
-/

namespace DocumentSearch

namespace BoolQuery

/-- How many optional clauses have to hold: the stated number, and otherwise none beside required or
filtering clauses and one when the optional clauses stand alone. -/
def requiredShould (query : BoolQuery) : Nat :=
  match query.minimumShouldMatch with
  | some count => count.toNat
  | none =>
      if !query.must.isEmpty || !query.filter.isEmpty then 0
      else if query.should.isEmpty then 0
      else 1

/-- Whether a document for which exactly the clauses in `holds` are true is accepted. -/
def accepts (query : BoolQuery) (holds : Clause → Bool) : Bool :=
  query.must.all holds && query.filter.all holds &&
    decide (query.requiredShould ≤ query.should.countP holds)

end BoolQuery

namespace Query

/-- Whether a document for which exactly the clauses in `holds` are true is accepted. -/
def accepts (query : Query) (holds : Clause → Bool) : Bool :=
  match query with
  | .matchAll => true
  | .bool query => query.accepts holds

end Query

namespace ConditionSet

/-- Every condition of the set holds. -/
def AllHold (conditions : ConditionSet) (holds : Clause → Bool) : Prop :=
  ∀ field predicate, conditions.get? field = some predicate → holds ⟨field, predicate⟩ = true

/-- Some condition of the set holds. -/
def SomeHolds (conditions : ConditionSet) (holds : Clause → Bool) : Prop :=
  ∃ field predicate, conditions.get? field = some predicate ∧ holds ⟨field, predicate⟩ = true

end ConditionSet

namespace Draft

/-- Every required condition and every filter holds, and when nothing is required but something is
optional, one of the optional conditions. -/
def Means (draft : Draft) (holds : Clause → Bool) : Prop :=
  draft.must.AllHold holds ∧ draft.filter.AllHold holds ∧
    (draft.must.isEmpty = true → draft.should.isEmpty = false → draft.should.SomeHolds holds)

end Draft

end DocumentSearch
