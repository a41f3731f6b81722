import DocumentSearch.Json.Reader

/-!
# Reading values of a known shape

A record has named fields, some of which may be absent.  It is written as an object, or as an array
of its fields in their order.  Keys that belong to no field are ignored, and no field may be given
twice.

`Row.ofJson?` takes the fields out of a value that has been read already.  The readers of this
module take them off a text directly: of several faults the leftmost is reported, and what belongs
to no field is skipped unread.  They return the value without its unknown keys, so that taking it
apart is left to `Row.ofJson?` in both cases.
-/

namespace DocumentSearch

namespace Json

/-- A reader together with the number of levels that may still be nested. -/
abbrev NestedReader (α : Type) := Nat → Reader α

/-- Whether a field may be missing. -/
inductive Presence
  /-- The field has to be there. -/
  | required
  /-- An object may lack the field, an array may not. -/
  | optional
  /-- The field may be missing, and from the end of an array too. -/
  | defaulted
deriving DecidableEq, Repr

/-- A field of a record. -/
structure Field where
  key : String
  presence : Presence
  /-- Takes the value of the field off a text. -/
  read : NestedReader Json

/-- The values given for the fields of a record. -/
abbrev Row := List (String × Json)

namespace Row

/-- The value given for a field. -/
def given? (row : Row) (key : String) : Option Json := Entries.get? key row

/-- The value of a field that has to be given. -/
def required? {α : Type} (row : Row) (key : String) (decode : Json → Option α) : Option α :=
  (row.given? key).bind decode

/-- The value of a field that is missing or `null` when there is none. -/
def optional? {α : Type} (row : Row) (key : String) (decode : Json → Option α) :
    Option (Option α) :=
  match row.given? key with
  | none | some .null => some none
  | some json => (decode json).map some

/-- The value of a field that has a default; `null` does not count as missing. -/
def defaulted? {α : Type} (row : Row) (key : String) (default : α) (decode : Json → Option α) :
    Option α :=
  match row.given? key with
  | none => some default
  | some json => decode json

/-- Pairs the fields with the items of an array. -/
def ofItems? : List Field → List Json → Option Row
  | [], [] => some []
  | [], _ :: _ => none
  | field :: fields, [] => if field.presence = .defaulted then ofItems? fields [] else none
  | field :: fields, item :: items =>
      (ofItems? fields items).map fun row => (field.key, item) :: row

/-- Whether some field has this key. -/
def isKnown (fields : List Field) (key : String) : Bool :=
  fields.any fun field => field.key = key

/-- Whether every required field is given. -/
def isComplete (fields : List Field) (row : Row) : Bool :=
  fields.all fun field => field.presence ≠ .required || (Entries.keys row).contains field.key

/-- The entries whose keys belong to fields. -/
def ofEntries? (fields : List Field) (entries : List (String × Json)) : Option Row :=
  let row := entries.filter fun entry => isKnown fields entry.1
  if (Entries.keys row).Nodup ∧ isComplete fields row then some row else none

/-- The fields given by an object or an array. -/
def ofJson? (fields : List Field) : Json → Option Row
  | .object entries => ofEntries? fields entries
  | .array items => ofItems? fields items
  | _ => none

end Row

namespace Shape

/-- The fault of a value that has another shape than expected.  A string, a number or a word is
read to its end first, so a fault inside it comes before. -/
def mismatch {α : Type} (text : List Char) : Except Fault α :=
  match skipBlanks text with
  | '[' :: _ | '{' :: _ => .error .mismatch
  | text =>
      match valueWith none text with
      | .error fault => .error fault
      | .ok _ => .error .mismatch

/-- Any value. -/
def any : NestedReader Json := value

/-- Any value, but with every entry kept when it is an object with repeated keys. -/
def anyEntries : NestedReader Json := fun depth text =>
  match skipBlanks text, depth with
  | '{' :: rest, depth + 1 => do
      let (entries, rest) ← foldEntries stringBody (fun entries key text => do
        let (json, rest) ← value depth (← colon text)
        return (entries ++ [(key, json)], rest)) (rest.length + 1) true [] rest
      return (.object entries, rest)
  | text, depth => value depth text

/-- A value that is read as a whole before it is looked at. -/
def checked (accepts : Json → Bool) : NestedReader Json := fun depth text => do
  let (json, rest) ← anyEntries depth text
  if accepts json then return (json, rest) else .error .mismatch

/-- A truth value. -/
def bool : NestedReader Json := fun _ text =>
  match skipBlanks text with
  | 't' :: rest => valueWith none ('t' :: rest)
  | 'f' :: rest => valueWith none ('f' :: rest)
  | text => mismatch text

/-- A string. -/
def string : NestedReader Json := fun _ text =>
  match skipBlanks text with
  | '"' :: rest => valueWith none ('"' :: rest)
  | text => mismatch text

/-- A number that the test accepts. -/
def number (accepts : Json → Bool) : NestedReader Json := fun _ text =>
  match number? (skipBlanks text) with
  | some result => do
      let (value, rest) ← result
      if accepts (.number value) then return (.number value, rest) else .error .mismatch
  | none => mismatch text

/-- An unsigned integer below `bound`. -/
def natBelow (bound : Nat) : NestedReader Json :=
  number fun json => (json.asNatBelow? bound).isSome

/-- Any number. -/
def double : NestedReader Json := number fun _ => true

/-- A value that may be `null`. -/
def nullable (inner : NestedReader Json) : NestedReader Json := fun depth text =>
  match skipBlanks text with
  | 'n' :: rest => valueWith none ('n' :: rest)
  | text => inner depth text

/-- An array of values of one shape. -/
def list (item : NestedReader Json) : NestedReader Json := fun depth text =>
  match skipBlanks text, depth with
  | '[' :: _, 0 => .error .malformed
  | '[' :: rest, depth + 1 => do
      let (items, rest) ← foldItems (fun items text => do
        let (json, rest) ← item depth text
        return (json :: items, rest)) (rest.length + 1) true [] rest
      return (.array items.reverse, rest)
  | text, _ => mismatch text

/-- An object with values of any shape. -/
def map : NestedReader Json := fun depth text =>
  match skipBlanks text with
  | '{' :: rest => value depth ('{' :: rest)
  | text => mismatch text

/-- Reads the value of a field behind its key.  A field that is given twice is refused before its
value is looked at. -/
def entry (fields : List Field) (other : String → Reader (Option Json)) (depth : Nat)
    (row : Row) (key : String) : Reader Row := fun text =>
  match fields.find? fun field => field.key = key with
  | some field =>
      if (Entries.keys row).contains key then .error .mismatch
      else do
        let (json, rest) ← field.read depth (← colon text)
        return (row ++ [(key, json)], rest)
  | none => do
      let (json?, rest) ← other key (← colon text)
      return ((match json? with
        | some json => Entries.put key json row
        | none => row), rest)

/-- Reads the entries of an object behind the opening brace. -/
def entries (fields : List Field) (other : String → Reader (Option Json)) (depth : Nat) :
    Reader Json := fun text => do
  let (row, rest) ← foldEntries stringBody (entry fields other depth) (text.length + 1) true []
    text
  if Row.isComplete fields row then return (.object row, rest) else .error .mismatch

/-- Reads the fields from the items of an array behind the opening bracket. -/
def items (depth : Nat) : List Field → Bool → Reader (List Json)
  | [], _, text =>
      match skipBlanks text with
      | [] => .error .truncated
      | ']' :: rest => .ok ([], rest)
      | _ => .error .malformed
  | field :: fields, first, text =>
      match skipBlanks text with
      | [] => .error .truncated
      | ']' :: rest =>
          if (field :: fields).all fun field => field.presence = .defaulted then .ok ([], rest)
          else .error .mismatch
      | c :: rest =>
          match (if first then .ok (c :: rest)
            else if c = ',' then
              match skipBlanks rest with
              | [] => .error .truncated
              | ']' :: _ => .error .malformed
              | rest => .ok rest
            else .error .malformed : Except Fault (List Char)) with
          | .error fault => .error fault
          | .ok text => do
              let (json, rest) ← field.read depth text
              let (others, rest) ← items depth fields false rest
              return (json :: others, rest)

/-- A record. -/
def record (fields : List Field) : NestedReader Json := fun depth text =>
  match skipBlanks text, depth with
  | '{' :: _, 0 | '[' :: _, 0 => .error .malformed
  | '{' :: rest, depth + 1 =>
      entries fields (fun _ text => do return (none, (← skipValue text).2)) depth rest
  | '[' :: rest, depth + 1 => do
      let (values, rest) ← items depth fields true rest
      return (.array values, rest)
  | text, _ => mismatch text

/-- A record that keeps its other keys as well; it is never written as an array. -/
def openRecord (fields : List Field) : NestedReader Json := fun depth text =>
  match skipBlanks text, depth with
  | '{' :: _, 0 => .error .malformed
  | '{' :: rest, depth + 1 =>
      entries fields (fun _ text => do
        let (json, rest) ← value depth text
        return (some json, rest)) depth rest
  | text, _ => mismatch text

/-- The value of everything there is to read, read by its shape and then decoded. -/
def decodeAll {α : Type} (shape : NestedReader Json) (decode : Json → Option α)
    (text : List Char) : Except Fault α := do
  let json ← readAll (shape depthLimit) text
  match decode json with
  | some value => return value
  | none => .error .mismatch

/-- The value of a whole text. -/
def decodeText {α : Type} (shape : NestedReader Json) (decode : Json → Option α)
    (text : String) : Except Fault α :=
  decodeAll shape decode (symbols text)

/-- The value of bytes. -/
def decodeBytes {α : Type} (shape : NestedReader Json) (decode : Json → Option α)
    (bytes : List UInt8) : Except Fault α :=
  decodeAll shape decode (symbolsOfBytes bytes)

end Shape

end Json

end DocumentSearch
