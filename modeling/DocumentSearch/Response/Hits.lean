import DocumentSearch.Response.Basic

/-!
# Answers to searches

A search is answered with a page of hits in the order of their rank and with the number of all hits.
Scores are finite numbers; an integer is taken as the nearest double.
-/

namespace DocumentSearch

open Json (Field Row)

/-- A finite number that ranks a hit. -/
structure Score where
  value : Binary64
  finite : value.isFinite = true
deriving Repr

namespace Score

instance : DecidableEq Score := fun left right =>
  if same : left.value = right.value then
    isTrue (by
      cases left
      cases right
      cases same
      rfl)
  else isFalse fun equal => same (congrArg Score.value equal)

/-- The score of a number. -/
def ofJson? (json : Json) : Option Score :=
  json.asBinary64?.bind fun value =>
    if finite : value.isFinite = true then some ⟨value, finite⟩ else none

/-- The written form. -/
def toJson (score : Score) : Json := .number (.double score.value score.finite)

/-- The score of a hit when nothing was ranked. -/
def one : Score := ⟨⟨0x3FF0000000000000⟩, by decide⟩

end Score

/-- How many documents match. -/
structure HitCount where
  value : UInt64
  /-- Whether the count is exact. -/
  relation : Option String
deriving DecidableEq, Repr

namespace HitCount

/-- The fields of the record. -/
def fields : List Field :=
  [⟨"value", .required, Json.Shape.natBelow UInt64.size⟩,
   ⟨"relation", .defaulted, Json.Shape.nullable Json.Shape.string⟩]

/-- The written form. -/
def toJson (count : HitCount) : Json :=
  .object [("value", .number (.ofUInt64 count.value)),
    ("relation", Json.ofOption .string count.relation)]

/-- Reads the record. -/
def ofJson? (json : Json) : Option HitCount := do
  let row ← Row.ofJson? fields json
  let value ← row.required? "value" Json.asUInt64?
  let relation ← row.optional? "relation" Json.asString?
  return ⟨value, relation⟩

end HitCount

/-- One document that matches. -/
structure Hit where
  index : String
  id : String
  score : Option Score
  source : OrderedMap Json
deriving DecidableEq, Repr

namespace Hit

/-- The fields of the record. -/
def fields : List Field :=
  [⟨"_index", .required, Json.Shape.string⟩,
   ⟨"_id", .required, Json.Shape.string⟩,
   ⟨"_score", .defaulted, Json.Shape.nullable Json.Shape.double⟩,
   ⟨"_source", .defaulted, Json.Shape.map⟩]

/-- The written form. -/
def toJson (hit : Hit) : Json :=
  .object [("_index", .string hit.index), ("_id", .string hit.id),
    ("_score", Json.ofOption Score.toJson hit.score), ("_source", Json.ofMap hit.source)]

/-- Reads the record. -/
def ofJson? (json : Json) : Option Hit := do
  let row ← Row.ofJson? fields json
  let index ← row.required? "_index" Json.asString?
  let id ← row.required? "_id" Json.asString?
  let score ← row.optional? "_score" Score.ofJson?
  let source ← row.defaulted? "_source" OrderedMap.empty Json.asMap?
  return ⟨index, id, score, source⟩

end Hit

/-- The hits of a page. -/
structure HitPage where
  total : Option HitCount
  maxScore : Option Score
  hits : List Hit
deriving DecidableEq, Repr

namespace HitPage

/-- No hits. -/
def empty : HitPage := ⟨none, none, []⟩

/-- The fields of the record. -/
def fields : List Field :=
  [⟨"total", .defaulted, Json.Shape.nullable (Json.Shape.record HitCount.fields)⟩,
   ⟨"max_score", .defaulted, Json.Shape.nullable Json.Shape.double⟩,
   ⟨"hits", .defaulted, Json.Shape.list (Json.Shape.record Hit.fields)⟩]

/-- The written form. -/
def toJson (page : HitPage) : Json :=
  .object [("total", Json.ofOption HitCount.toJson page.total),
    ("max_score", Json.ofOption Score.toJson page.maxScore),
    ("hits", .array (page.hits.map Hit.toJson))]

/-- Reads a list of hits. -/
def hitsOfJson? (json : Json) : Option (List Hit) :=
  json.asItems?.bind fun items => items.mapM Hit.ofJson?

/-- Reads the record. -/
def ofJson? (json : Json) : Option HitPage := do
  let row ← Row.ofJson? fields json
  let total ← row.optional? "total" HitCount.ofJson?
  let maxScore ← row.optional? "max_score" Score.ofJson?
  let hits ← row.defaulted? "hits" [] hitsOfJson?
  return ⟨total, maxScore, hits⟩

end HitPage

/-- The answer to a search. -/
structure SearchReport where
  took : UInt64
  timedOut : Bool
  page : HitPage
deriving DecidableEq, Repr

namespace SearchReport

/-- The fields of the record. -/
def fields : List Field :=
  [⟨"took", .defaulted, Json.Shape.natBelow UInt64.size⟩,
   ⟨"timed_out", .defaulted, Json.Shape.bool⟩,
   ⟨"hits", .defaulted, Json.Shape.record HitPage.fields⟩]

/-- The written form. -/
def toJson (report : SearchReport) : Json :=
  .object [("took", .number (.ofUInt64 report.took)), ("timed_out", .bool report.timedOut),
    ("hits", report.page.toJson)]

/-- Reads the record. -/
def ofJson? (json : Json) : Option SearchReport := do
  let row ← Row.ofJson? fields json
  let took ← row.defaulted? "took" 0 Json.asUInt64?
  let timedOut ← row.defaulted? "timed_out" false Json.asBool?
  let page ← row.defaulted? "hits" HitPage.empty HitPage.ofJson?
  return ⟨took, timedOut, page⟩

/-- How many documents match, on this page and elsewhere; without a count, those on the page. -/
def total (report : SearchReport) : UInt64 :=
  match report.page.total with
  | some count => count.value
  | none => UInt64.ofNat report.page.hits.length

/-- The fields of the hits, in the order of their rank. -/
def documents (report : SearchReport) : List (OrderedMap Json) := report.page.hits.map Hit.source

/-- The identifiers of the hits, in the order of their rank. -/
def ids (report : SearchReport) : List String := report.page.hits.map Hit.id

end SearchReport

end DocumentSearch
