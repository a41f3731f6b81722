import DocumentSearch.Json.Basic
import DocumentSearch.Number.Digits

/-!
# Writing JSON

Two written forms: the compact one without any blank, and an indented one with an item per line.
In strings only the quotation mark, the backslash and the control characters below the space are
escaped, so the compact form never holds a line break.
-/

namespace DocumentSearch

namespace Json

/-- Doubles are written with a fractional digit from `0.00001` up to below `10 ^ 16` and with a
signed exponent elsewhere. -/
def numberStyle : DecimalStyle where
  positional exponent := decide (-5 ≤ exponent ∧ exponent < 16)
  markWhole := true

/-- The decimal digits of an integer with its sign. -/
def integerChars (value : Int) : List Char :=
  if value < 0 then '-' :: Nat.toDigits 10 value.natAbs else Nat.toDigits 10 value.natAbs

/-- The text of a number. -/
def numberChars : Number → List Char
  | .integer value _ => integerChars value
  | .double value _ => numberStyle.text value

/-- A hexadecimal digit in lower case. -/
def hexDigit (digit : Nat) : Char := Nat.digitChar digit

/-- One character inside a string literal. -/
def escapeChar (c : Char) : List Char :=
  if c = '"' then ['\\', '"']
  else if c = '\\' then ['\\', '\\']
  else if c = '\x08' then ['\\', 'b']
  else if c = '\x0c' then ['\\', 'f']
  else if c = '\n' then ['\\', 'n']
  else if c = '\r' then ['\\', 'r']
  else if c = '\t' then ['\\', 't']
  else if c.toNat < 32 then
    ['\\', 'u', '0', '0', hexDigit (c.toNat / 16), hexDigit (c.toNat % 16)]
  else [c]

/-- A string literal. -/
def quote (text : List Char) : List Char :=
  '"' :: text.flatMap escapeChar ++ ['"']

mutual

/-- The compact form. -/
def compact : Json → List Char
  | .null => ['n', 'u', 'l', 'l']
  | .bool true => ['t', 'r', 'u', 'e']
  | .bool false => ['f', 'a', 'l', 's', 'e']
  | .number value => numberChars value
  | .string value => quote value.toList
  | .array [] => ['[', ']']
  | .array (item :: rest) => '[' :: compact item ++ compactItems rest ++ [']']
  | .object [] => ['{', '}']
  | .object ((key, value) :: rest) =>
      '{' :: quote key.toList ++ ':' :: compact value ++ compactEntries rest ++ ['}']

/-- The items after the first, each behind a comma. -/
def compactItems : List Json → List Char
  | [] => []
  | item :: rest => ',' :: compact item ++ compactItems rest

/-- The entries after the first, each behind a comma. -/
def compactEntries : List (String × Json) → List Char
  | [] => []
  | (key, value) :: rest =>
      ',' :: quote key.toList ++ ':' :: compact value ++ compactEntries rest

end

/-- The compact form as text. -/
def toText (json : Json) : String := String.ofList json.compact

/-- A line break and the blanks that lead the next line. -/
def newline (level : Nat) : List Char := '\n' :: List.replicate (2 * level) ' '

mutual

/-- The indented form of a value that starts at the given level. -/
def indented (level : Nat) : Json → List Char
  | .array (item :: rest) =>
      '[' :: newline (level + 1) ++ indented (level + 1) item ++
        indentedItems (level + 1) rest ++ newline level ++ [']']
  | .object ((key, value) :: rest) =>
      '{' :: newline (level + 1) ++ quote key.toList ++ ':' :: ' ' ::
        indented (level + 1) value ++ indentedEntries (level + 1) rest ++ newline level ++ ['}']
  | json => compact json

/-- The items after the first, each on a line of its own. -/
def indentedItems (level : Nat) : List Json → List Char
  | [] => []
  | item :: rest =>
      ',' :: newline level ++ indented level item ++ indentedItems level rest

/-- The entries after the first, each on a line of its own. -/
def indentedEntries (level : Nat) : List (String × Json) → List Char
  | [] => []
  | (key, value) :: rest =>
      ',' :: newline level ++ quote key.toList ++ ':' :: ' ' :: indented level value ++
        indentedEntries level rest

end

/-- The indented form as text. -/
def toIndentedText (json : Json) : String := String.ofList (json.indented 0)

end Json

end DocumentSearch
