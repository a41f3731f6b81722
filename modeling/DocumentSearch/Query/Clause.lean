import DocumentSearch.Condition.Basic

/-!
# Queries in the engine's form

A query either takes every document or is a boolean container of clauses in three sections.  A
clause is a field with a predicate; it is not checked here.
-/

namespace DocumentSearch

/-- A field and the predicate it is tested with. -/
structure Clause where
  field : String
  predicate : Predicate
deriving DecidableEq, Repr

namespace Predicate

/-- The name under which a predicate of this kind is written. -/
def kind : Predicate → String
  | .matches _ => "match"
  | .term _ => "term"
  | .terms _ => "terms"
  | .range _ => "range"

/-- The written form of what the field is compared with. -/
def argument : Predicate → Json
  | .matches value => value
  | .term value => value
  | .terms values => .array values
  | .range bounds => bounds.toJson

end Predicate

namespace Clause

/-- The clause of a condition. -/
def ofCondition (condition : Condition) : Clause := ⟨condition.field, condition.predicate⟩

/-- The kind of predicate over the field over its argument. -/
def toJson (clause : Clause) : Json :=
  .object [(clause.predicate.kind, .object [(clause.field, clause.predicate.argument)])]

end Clause

/-- Clauses that a document is tested with. -/
structure BoolQuery where
  /-- Clauses that all have to hold. -/
  must : List Clause
  /-- Clauses of which `minimumShouldMatch` have to hold. -/
  should : List Clause
  /-- Clauses that all have to hold and do not count for the rank. -/
  filter : List Clause
  minimumShouldMatch : Option UInt32
deriving DecidableEq, Repr

namespace BoolQuery

/-- Whether there is no clause. -/
def isEmpty (query : BoolQuery) : Bool :=
  query.must.isEmpty && query.should.isEmpty && query.filter.isEmpty

/-- All clauses, section after section. -/
def clauses (query : BoolQuery) : List Clause := query.must ++ query.should ++ query.filter

/-- A section, unless it is empty. -/
def entryUnlessEmpty (name : String) (clauses : List Clause) : List (String × Json) :=
  if clauses.isEmpty then [] else [(name, .array (clauses.map Clause.toJson))]

/-- The sections that hold clauses, and the least number of optional ones if it is set. -/
def toJson (query : BoolQuery) : Json :=
  .object (entryUnlessEmpty "must" query.must ++ entryUnlessEmpty "should" query.should ++
    entryUnlessEmpty "filter" query.filter ++
    (query.minimumShouldMatch.map fun count =>
      ("minimum_should_match", Json.number (.ofUInt32 count))).toList)

end BoolQuery

/-- A query over the documents of a table. -/
inductive Query
  | matchAll
  | bool (query : BoolQuery)
deriving DecidableEq, Repr

namespace Query

/-- The name of a query's form. -/
def kind : Query → String
  | .matchAll => "match_all"
  | .bool _ => "bool"

/-- The written form of a query. -/
def toJson : Query → Json
  | .matchAll => .object [("match_all", .object [])]
  | .bool query => .object [("bool", query.toJson)]

end Query

/-- The body of a search: a query and the part of its hits that is wanted. -/
structure SearchBody where
  query : Query
  /-- How many hits to pass over. -/
  offset : UInt64
  /-- How many hits to return. -/
  limit : UInt64
deriving DecidableEq, Repr

namespace SearchBody

/-- The written form of a search body. -/
def toJson (body : SearchBody) : Json :=
  .object [("query", body.query.toJson), ("from", .number (.ofUInt64 body.offset)),
    ("size", .number (.ofUInt64 body.limit))]

end SearchBody

/-- A search on a table. -/
structure Search where
  table : String
  body : SearchBody
deriving DecidableEq, Repr

end DocumentSearch
