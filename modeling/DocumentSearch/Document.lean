import DocumentSearch.Error

/-!
# Documents

A document maps field names to JSON values in the order in which they were first set.  The name
`id` is reserved: it carries the identifier under which the engine stores the document and is not
stored as a field.  Splitting the id off leaves the other fields as they were.
-/

namespace DocumentSearch

/-- The fields of a record, oldest first. -/
abbrev Document := OrderedMap Json

/-- A document as an engine stores it: the identifier apart from the fields. -/
structure Record where
  /-- The identifier, unless the engine is to choose one. -/
  id : Option String
  body : Document
deriving DecidableEq, Repr

namespace Document

/-- The reserved name that carries the identifier. -/
def idField : String := "id"

/-- The document of a JSON object. -/
def ofJson (json : Json) : Except InvalidInput Document :=
  match json.asMap? with
  | some fields => .ok fields
  | none => .error (.documentNotObject json)

/-- The identifier that the reserved field stands for: a string stands for itself, an integer for
its decimal digits, and `null` for none. -/
def idOfJson : Json → Except InvalidInput (Option String)
  | .null => .ok none
  | .string "" => .error .emptyDocumentId
  | .string text => .ok (some text)
  | .number (.integer value _) => .ok (some (String.ofList (Json.integerChars value)))
  | json => .error (.unusableDocumentId json)

/-- The identifier given by a document, if it gives one. -/
def id? (document : Document) : Except InvalidInput (Option String) :=
  match document.get? idField with
  | none => .ok none
  | some json => idOfJson json

/-- The document as it is stored: its identifier apart from its other fields. -/
def split (document : Document) : Except InvalidInput Record :=
  document.id?.map fun id => ⟨id, document.erase idField⟩

end Document

end DocumentSearch
