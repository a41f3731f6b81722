import DocumentSearch.Schema.FieldType

/-!
# Field mappings

How one field of a table is stored: its type and any further parameters, which are passed on
unread.  A mapping has two written forms.  In the flat one the type comes first and every parameter
follows it; in the merged one a parameter called `type` takes the place of the type.
-/

namespace DocumentSearch

/-- The type of a field and its parameters. -/
structure FieldMapping where
  type : FieldType
  params : OrderedMap Json
deriving DecidableEq, Repr

namespace FieldMapping

/-- The key of the type. -/
def typeKey : String := "type"

/-- The mapping of a type without parameters. -/
def ofType (type : FieldType) : FieldMapping := ⟨type, .empty⟩

/-- Sets a parameter. -/
def withParam (mapping : FieldMapping) (key : String) (value : Json) : FieldMapping :=
  { mapping with params := mapping.params.insert key value }

/-- Sets the analyser of a text field. -/
def withAnalyzer (mapping : FieldMapping) (analyzer : String) : FieldMapping :=
  mapping.withParam "analyzer" (.string analyzer)

/-- The flat form: the type and then every parameter. -/
def toFlatJson (mapping : FieldMapping) : Json :=
  .object ((typeKey, mapping.type.toJson) :: mapping.params.entries)

/-- The merged form, as it is sent to the engine: parameters are inserted behind the type. -/
def toMap (mapping : FieldMapping) : OrderedMap Json :=
  (OrderedMap.empty.insert typeKey mapping.type.toJson).merge mapping.params

/-- The merged form as a value. -/
def toJson (mapping : FieldMapping) : Json := Json.ofMap mapping.toMap

/-- The type as a field of a record; all other keys are parameters. -/
def fields : List Json.Field := [⟨typeKey, .required, FieldType.shape⟩]

/-- Reads a mapping: an object with one type. -/
def ofJson? : Json → Option FieldMapping
  | .object entries => do
      let row ← Json.Row.ofEntries? fields entries
      let type ← row.required? typeKey FieldType.ofJson?
      return ⟨type, OrderedMap.ofList (Entries.erase typeKey entries)⟩
  | _ => none

/-- The mapping that a text holds. -/
def ofText (text : String) : Except Json.Fault FieldMapping :=
  Json.Shape.decodeText (Json.Shape.openRecord fields) ofJson? text

end FieldMapping

end DocumentSearch
