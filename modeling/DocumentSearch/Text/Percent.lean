import DocumentSearch.Text.Utf8

/-!
# Percent-encoding

Characters that a part of a URL cannot hold are written as the bytes of their UTF-8 form, each as a
percent sign and two hexadecimal digits.  Decoding gives bytes; a percent sign without two digits
stands for itself.
-/

namespace DocumentSearch

namespace Percent

/-- A hexadecimal digit in upper case. -/
def hexDigit (digit : Nat) : Char :=
  if digit < 10 then Char.ofNat ('0'.toNat + digit) else Char.ofNat ('A'.toNat + digit - 10)

/-- The value of a hexadecimal digit. -/
def hexValue? (c : Char) : Option Nat :=
  if '0' ≤ c ∧ c ≤ '9' then some (c.toNat - '0'.toNat)
  else if 'a' ≤ c ∧ c ≤ 'f' then some (c.toNat - 'a'.toNat + 10)
  else if 'A' ≤ c ∧ c ≤ 'F' then some (c.toNat - 'A'.toNat + 10)
  else none

/-- A byte as a percent sign and two digits. -/
def encodeByte (byte : UInt8) : List Char :=
  ['%', hexDigit (byte.toNat / 16), hexDigit (byte.toNat % 16)]

/-- A character, encoded if the test asks for it. -/
def encodeChar (reserved : Char → Bool) (c : Char) : List Char :=
  if reserved c then (String.utf8EncodeChar c).flatMap encodeByte else [c]

/-- A text with every reserved character encoded. -/
def encode (reserved : Char → Bool) (text : List Char) : List Char :=
  text.flatMap (encodeChar reserved)

/-- The bytes of an encoded text. -/
def decode : List Char → List UInt8
  | [] => []
  | '%' :: high :: low :: rest =>
      match hexValue? high, hexValue? low with
      | some h, some l => UInt8.ofNat (16 * h + l) :: decode rest
      | _, _ => String.utf8EncodeChar '%' ++ decode (high :: low :: rest)
  | c :: rest => String.utf8EncodeChar c ++ decode rest

/-- The control characters, and everything that is not ASCII. -/
def isControlOrForeign (c : Char) : Bool :=
  decide (c.toNat < 0x20 ∨ 0x7F ≤ c.toNat)

/-- What the path of a URL cannot hold. -/
def reservedInPath (c : Char) : Bool :=
  isControlOrForeign c || [' ', '"', '#', '<', '>', '?', '`', '\x7b', '\x7d'].contains c

/-- What a single segment of a path cannot hold: its separators and the percent sign as well. -/
def reservedInSegment (c : Char) : Bool :=
  reservedInPath c || ['/', '%', '\\'].contains c

/-- What the query of a URL cannot hold. -/
def reservedInQuery (c : Char) : Bool :=
  isControlOrForeign c || [' ', '"', '#', '<', '>', '\x27'].contains c

end Percent

end DocumentSearch
