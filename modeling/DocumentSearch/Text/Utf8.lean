/-!
# UTF-8

The bytes of a text, and the text of bytes that may not be valid.  Decoding goes byte by byte
through a small machine.  A sequence that breaks off is bad as far as it got, and the byte that
breaks it is looked at again as the start of the next one.
-/

namespace DocumentSearch

namespace Utf8

/-- The bytes of a text. -/
def encode (text : List Char) : List UInt8 := text.flatMap String.utf8EncodeChar

/-- Where decoding stands between two bytes. -/
inductive State
  /-- Between two characters. -/
  | ready
  /-- Inside a character: the bits so far, how many bytes are there and how many are missing, and
  between which values the next one has to lie. -/
  | inside (bits taken missing lower upper : Nat)
deriving DecidableEq, Repr

/-- What bytes decode to. -/
inductive Item
  | char (c : Char)
  /-- A bad sequence of so many bytes. -/
  | bad (length : Nat)
deriving DecidableEq, Repr

/-- The first byte of a character. -/
def start (byte : Nat) : List Item × State :=
  if byte < 0x80 then ([.char (Char.ofNat byte)], .ready)
  else if 0xC2 ≤ byte ∧ byte < 0xE0 then ([], .inside (byte - 0xC0) 1 1 0x80 0xBF)
  else if byte = 0xE0 then ([], .inside 0 1 2 0xA0 0xBF)
  else if byte = 0xED then ([], .inside 0xD 1 2 0x80 0x9F)
  else if 0xE1 ≤ byte ∧ byte < 0xF0 then ([], .inside (byte - 0xE0) 1 2 0x80 0xBF)
  else if byte = 0xF0 then ([], .inside 0 1 3 0x90 0xBF)
  else if byte = 0xF4 then ([], .inside 4 1 3 0x80 0x8F)
  else if 0xF1 ≤ byte ∧ byte < 0xF4 then ([], .inside (byte - 0xF0) 1 3 0x80 0xBF)
  else ([.bad 1], .ready)

/-- The next byte. -/
def step (state : State) (byte : Nat) : List Item × State :=
  match state with
  | .ready => start byte
  | .inside bits taken missing lower upper =>
      if lower ≤ byte ∧ byte ≤ upper then
        let bits := bits * 64 + (byte - 0x80)
        if missing ≤ 1 then ([.char (Char.ofNat bits)], .ready)
        else ([], .inside bits (taken + 1) (missing - 1) 0x80 0xBF)
      else
        let (items, next) := start byte
        (.bad taken :: items, next)

/-- Decodes bytes from a state; an unfinished character at the end is a bad sequence. -/
def decodeFrom : State → List UInt8 → List Item
  | .ready, [] => []
  | .inside _ taken _ _ _, [] => [.bad taken]
  | state, byte :: rest =>
      let (items, next) := step state byte.toNat
      items ++ decodeFrom next rest

/-- The characters of bytes, and the bad sequences between them. -/
def decode (bytes : List UInt8) : List Item := decodeFrom .ready bytes

/-- The character of an item that is one. -/
def Item.char? : Item → Option Char
  | .char c => some c
  | .bad _ => none

/-- The character that stands for a bad sequence. -/
def replacement : Char := Char.ofNat 0xFFFD

/-- The text of bytes with every bad sequence replaced. -/
def decodeLossy (bytes : List UInt8) : List Char :=
  (decode bytes).map fun item => item.char?.getD replacement

/-- The text of valid bytes. -/
def decode? (bytes : List UInt8) : Option (List Char) := (decode bytes).mapM Item.char?

end Utf8

end DocumentSearch
