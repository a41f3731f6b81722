import DocumentSearch.Query.Clause
import DocumentSearch.Query.Draft

/-!
# From drafts to searches

A draft without conditions takes every document.  Otherwise its sections become those of a boolean
query.  Optional clauses only raise the rank when there is a required one; without any, one of them
has to hold, also beside filters.
-/

namespace DocumentSearch

namespace Draft

/-- The clauses of a set of conditions. -/
def clauses (conditions : ConditionSet) : List Clause :=
  conditions.entries.map fun entry => ⟨entry.1, entry.2⟩

/-- The boolean query with the three sections of the draft. -/
def boolQuery (draft : Draft) : BoolQuery where
  must := clauses draft.must
  should := clauses draft.should
  filter := clauses draft.filter
  minimumShouldMatch :=
    if !draft.should.isEmpty && draft.must.isEmpty then some 1 else none

/-- The query of a draft. -/
def query (draft : Draft) : Query :=
  if draft.hasConditions then .bool draft.boolQuery else .matchAll

/-- The search of a draft; a table has to be selected. -/
def compile (draft : Draft) : Except Error Search :=
  draft.requireTable.map fun table =>
    { table
      body := { query := draft.query, offset := draft.page.offset, limit := draft.page.limit } }

end Draft

end DocumentSearch
