import DocumentSearch.Error
import DocumentSearch.Schema.FieldMapping

/-!
# Table schemas

What a table is created with: its settings and the mappings of its fields.  Mappings are kept as
JSON, so anything the engine understands can be passed on.
-/

namespace DocumentSearch

/-- How a table is spread over the engine and whether documents are kept as they came. -/
structure TableSettings where
  shards : UInt32
  replicas : UInt32
  keepsSource : Bool
deriving DecidableEq, Repr

namespace TableSettings

/-- The settings of a table for which none are given. -/
def standard : TableSettings := ⟨3, 2, true⟩

instance : Inhabited TableSettings := ⟨standard⟩

/-- The fields of the record. -/
def fields : List Json.Field :=
  [⟨"number_of_shards", .required, Json.Shape.natBelow UInt32.size⟩,
   ⟨"number_of_replicas", .required, Json.Shape.natBelow UInt32.size⟩,
   ⟨"source_enabled", .required, Json.Shape.bool⟩]

/-- The written form. -/
def toJson (settings : TableSettings) : Json :=
  .object [("number_of_shards", .number (.ofUInt32 settings.shards)),
    ("number_of_replicas", .number (.ofUInt32 settings.replicas)),
    ("source_enabled", .bool settings.keepsSource)]

/-- Reads the record. -/
def ofJson? (json : Json) : Option TableSettings := do
  let row ← Json.Row.ofJson? fields json
  let shards ← row.required? "number_of_shards" Json.asUInt32?
  let replicas ← row.required? "number_of_replicas" Json.asUInt32?
  let keepsSource ← row.required? "source_enabled" Json.asBool?
  return ⟨shards, replicas, keepsSource⟩

/-- The settings that a text holds. -/
def ofText (text : String) : Except Json.Fault TableSettings :=
  Json.Shape.decodeText (Json.Shape.record fields) ofJson? text

end TableSettings

/-- The settings of a table and the mappings of its fields. -/
structure TableSchema where
  settings : TableSettings
  properties : OrderedMap Json
deriving DecidableEq, Repr

namespace TableSchema

/-- A schema without fields. -/
def empty : TableSchema := ⟨.standard, .empty⟩

instance : Inhabited TableSchema := ⟨empty⟩

/-- The schema with the given mappings and the usual settings. -/
def ofProperties (properties : OrderedMap Json) : TableSchema := ⟨.standard, properties⟩

/-- Sets the mapping of a field. -/
def field (schema : TableSchema) (name : String) (mapping : FieldMapping) : TableSchema :=
  { schema with properties := schema.properties.insert name mapping.toJson }

/-- Sets the mapping of a field to a value that is passed on unread. -/
def rawField (schema : TableSchema) (name : String) (mapping : Json) : TableSchema :=
  { schema with properties := schema.properties.insert name mapping }

/-- Replaces the settings. -/
def withSettings (schema : TableSchema) (settings : TableSettings) : TableSchema :=
  { schema with settings }

/-- The names of the fields. -/
def fieldNames (schema : TableSchema) : List String := schema.properties.keys

/-- A schema has a field, and every field has a name. -/
def validate (schema : TableSchema) : Except InvalidInput Unit :=
  if schema.properties.isEmpty then .error .noColumns
  else if schema.fieldNames.any fun name => name = "" then .error .emptyField
  else .ok ()

/-- The body of a request that creates the table. -/
def createBody (schema : TableSchema) : Json :=
  .object
    [("settings", .object
      [("number_of_shards", .number (.ofUInt32 schema.settings.shards)),
       ("number_of_replicas", .number (.ofUInt32 schema.settings.replicas))]),
     ("mappings", .object
      [("_source", .object [("enabled", .bool schema.settings.keepsSource)]),
       ("properties", Json.ofMap schema.properties)])]

/-- The body of a request that changes the mappings of the table. -/
def mappingBody (schema : TableSchema) : Json :=
  .object [("properties", Json.ofMap schema.properties)]

end TableSchema

end DocumentSearch
