import DocumentSearch.Response.Basic

/-!
# Answers to batches

The engine reports on every document of a batch, each report under the name of its action.  A report
that cannot be read is kept as a failure at its place, so positions agree with the batch.
-/

namespace DocumentSearch

open Json (Field Row)

/-- What became of one document of a batch. -/
structure ItemReport where
  index : Option String
  id : Option String
  status : UInt16
  result : Option String
  error : Option Json
deriving DecidableEq, Repr

namespace ItemReport

/-- The fields of the record. -/
def fields : List Field :=
  [⟨"_index", .defaulted, Json.Shape.nullable Json.Shape.string⟩,
   ⟨"_id", .defaulted, Json.Shape.nullable Json.Shape.string⟩,
   ⟨"status", .required, Json.Shape.natBelow UInt16.size⟩,
   ⟨"result", .defaulted, Json.Shape.nullable Json.Shape.string⟩,
   ⟨"error", .defaulted, Json.Shape.any⟩]

/-- The written form. -/
def toJson (report : ItemReport) : Json :=
  .object [("_index", Json.ofOption .string report.index),
    ("_id", Json.ofOption .string report.id),
    ("status", .number (.ofUInt16 report.status)),
    ("result", Json.ofOption .string report.result),
    ("error", Json.ofOption (fun json => json) report.error)]

/-- Reads the record. -/
def ofJson? (json : Json) : Option ItemReport := do
  let row ← Row.ofJson? fields json
  let index ← row.optional? "_index" Json.asString?
  let id ← row.optional? "_id" Json.asString?
  let status ← row.required? "status" Json.asUInt16?
  let result ← row.optional? "result" Json.asString?
  let error ← row.optional? "error" some
  return ⟨index, id, status, result, error⟩

/-- The report on a document whose item cannot be read: the item itself is the error. -/
def unreadable (item : OrderedMap Json) : ItemReport :=
  ⟨none, none, 0, none, some (Json.ofMap item)⟩

/-- The report in an item, which is the value of its first key. -/
def ofItem (item : OrderedMap Json) : ItemReport :=
  (item.values.head?.bind ofJson?).getD (unreadable item)

/-- Whether the document was not stored. -/
def isError (report : ItemReport) : Bool :=
  report.error.isSome || decide (300 ≤ report.status)

end ItemReport

/-- The answer to a batch. -/
structure BulkReport where
  took : UInt64
  errors : Bool
  /-- One item for each document, keyed by the action. -/
  items : List (OrderedMap Json)
deriving DecidableEq, Repr

namespace BulkReport

/-- The fields of the record. -/
def fields : List Field :=
  [⟨"took", .defaulted, Json.Shape.natBelow UInt64.size⟩,
   ⟨"errors", .required, Json.Shape.bool⟩,
   ⟨"items", .defaulted, Json.Shape.list Json.Shape.map⟩]

/-- The written form. -/
def toJson (report : BulkReport) : Json :=
  .object [("took", .number (.ofUInt64 report.took)), ("errors", .bool report.errors),
    ("items", .array (report.items.map Json.ofMap))]

/-- Reads a list of objects. -/
def itemsOfJson? (json : Json) : Option (List (OrderedMap Json)) :=
  json.asItems?.bind fun items => items.mapM Json.asMap?

/-- Reads the record. -/
def ofJson? (json : Json) : Option BulkReport := do
  let row ← Row.ofJson? fields json
  let took ← row.defaulted? "took" 0 Json.asUInt64?
  let errors ← row.required? "errors" Json.asBool?
  let items ← row.defaulted? "items" [] itemsOfJson?
  return ⟨took, errors, items⟩

/-- The reports on the documents, in the order of the batch. -/
def itemReports (report : BulkReport) : List ItemReport := report.items.map ItemReport.ofItem

/-- The documents that were not stored, with their positions. -/
def failedItems (report : BulkReport) : List (Nat × ItemReport) :=
  (report.itemReports.zipIdx.filter fun entry => entry.1.isError).map fun entry =>
    (entry.2, entry.1)

end BulkReport

end DocumentSearch
