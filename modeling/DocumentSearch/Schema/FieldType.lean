import DocumentSearch.Json.Printer
import DocumentSearch.Json.Shape

/-!
# Field types

The engine's types for the fields of a table.  A name that is none of the ten known ones is kept as
it is.
-/

namespace DocumentSearch

/-- The type of a field. -/
inductive FieldType
  | text
  | keyword
  | long
  | integer
  | double
  | float
  | boolean
  | date
  | object
  | nested
  | other (name : String)
deriving DecidableEq, Repr

namespace FieldType

/-- The name of a type. -/
def name : FieldType → String
  | .text => "text"
  | .keyword => "keyword"
  | .long => "long"
  | .integer => "integer"
  | .double => "double"
  | .float => "float"
  | .boolean => "boolean"
  | .date => "date"
  | .object => "object"
  | .nested => "nested"
  | .other name => name

/-- The types with a name of their own. -/
def known : List FieldType :=
  [.text, .keyword, .long, .integer, .double, .float, .boolean, .date, .object, .nested]

/-- The known type with this name. -/
def ofKnownName? (name : String) : Option FieldType :=
  known.find? fun candidate => candidate.name = name

/-- The type with this name. -/
def ofName (name : String) : FieldType := (ofKnownName? name).getD (.other name)

/-- Whether the type is not one of the known ones. -/
def isOther : FieldType → Bool
  | .other _ => true
  | _ => false

/-- The written form. -/
def toJson (type : FieldType) : Json := .string type.name

/-- Reads a type: a name, or a known name as the only key of an object over `null`. -/
def ofJson? : Json → Option FieldType
  | .string name => some (ofName name)
  | .object [(name, .null)] => ofKnownName? name
  | _ => none

/-- Takes a type off a text. -/
def shape : Json.NestedReader Json := Json.Shape.checked fun json => (ofJson? json).isSome

/-- The type that a text holds. -/
def ofText (text : String) : Except Json.Fault FieldType :=
  Json.Shape.decodeText shape ofJson? text

end FieldType

end DocumentSearch
