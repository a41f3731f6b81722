import DocumentSearch.Json.Printer
import DocumentSearch.Json.Shape

/-!
# Answers about single tables and documents

The typed answers of the engine.  Each is a record: reading ignores unknown fields, and writing
gives every field in its order, with `null` for a missing value.
-/

namespace DocumentSearch

open Json (Field Row)

/-- The engine has taken note of a change to a table. -/
structure Acknowledgement where
  acknowledged : Bool
  shardsAcknowledged : Option Bool
  index : Option String
deriving DecidableEq, Repr

namespace Acknowledgement

/-- The fields of the record. -/
def fields : List Field :=
  [⟨"acknowledged", .defaulted, Json.Shape.bool⟩,
   ⟨"shards_acknowledged", .defaulted, Json.Shape.nullable Json.Shape.bool⟩,
   ⟨"index", .defaulted, Json.Shape.nullable Json.Shape.string⟩]

/-- The written form. -/
def toJson (answer : Acknowledgement) : Json :=
  .object [("acknowledged", .bool answer.acknowledged),
    ("shards_acknowledged", Json.ofOption .bool answer.shardsAcknowledged),
    ("index", Json.ofOption .string answer.index)]

/-- Reads the record. -/
def ofJson? (json : Json) : Option Acknowledgement := do
  let row ← Row.ofJson? fields json
  let acknowledged ← row.defaulted? "acknowledged" false Json.asBool?
  let shardsAcknowledged ← row.optional? "shards_acknowledged" Json.asBool?
  let index ← row.optional? "index" Json.asString?
  return ⟨acknowledged, shardsAcknowledged, index⟩

end Acknowledgement

/-- What a write to one document did. -/
structure WriteReport where
  index : String
  id : String
  version : Option UInt64
  /-- What happened: `created`, `updated`, `deleted`, `noop` or `not_found`. -/
  result : String
deriving DecidableEq, Repr

namespace WriteReport

/-- The fields of the record. -/
def fields : List Field :=
  [⟨"_index", .required, Json.Shape.string⟩,
   ⟨"_id", .required, Json.Shape.string⟩,
   ⟨"_version", .defaulted, Json.Shape.nullable (Json.Shape.natBelow UInt64.size)⟩,
   ⟨"result", .required, Json.Shape.string⟩]

/-- The written form. -/
def toJson (report : WriteReport) : Json :=
  .object [("_index", .string report.index), ("_id", .string report.id),
    ("_version", Json.ofOption (fun version => .number (.ofUInt64 version)) report.version),
    ("result", .string report.result)]

/-- Reads the record. -/
def ofJson? (json : Json) : Option WriteReport := do
  let row ← Row.ofJson? fields json
  let index ← row.required? "_index" Json.asString?
  let id ← row.required? "_id" Json.asString?
  let version ← row.optional? "_version" Json.asUInt64?
  let result ← row.required? "result" Json.asString?
  return ⟨index, id, version, result⟩

end WriteReport

/-- The answer to a request for one document. -/
structure FetchReport where
  index : String
  id : String
  version : Option UInt64
  found : Bool
  source : Option (OrderedMap Json)
deriving DecidableEq, Repr

namespace FetchReport

/-- The fields of the record. -/
def fields : List Field :=
  [⟨"_index", .required, Json.Shape.string⟩,
   ⟨"_id", .required, Json.Shape.string⟩,
   ⟨"_version", .defaulted, Json.Shape.nullable (Json.Shape.natBelow UInt64.size)⟩,
   ⟨"found", .required, Json.Shape.bool⟩,
   ⟨"_source", .defaulted, Json.Shape.nullable Json.Shape.map⟩]

/-- The written form. -/
def toJson (report : FetchReport) : Json :=
  .object [("_index", .string report.index), ("_id", .string report.id),
    ("_version", Json.ofOption (fun version => .number (.ofUInt64 version)) report.version),
    ("found", .bool report.found), ("_source", Json.ofOption Json.ofMap report.source)]

/-- Reads the record. -/
def ofJson? (json : Json) : Option FetchReport := do
  let row ← Row.ofJson? fields json
  let index ← row.required? "_index" Json.asString?
  let id ← row.required? "_id" Json.asString?
  let version ← row.optional? "_version" Json.asUInt64?
  let found ← row.required? "found" Json.asBool?
  let source ← row.optional? "_source" Json.asMap?
  return ⟨index, id, version, found, source⟩

end FetchReport

end DocumentSearch
