import DocumentSearch.Json.Basic
import DocumentSearch.Number.Numeral
import DocumentSearch.Text.Utf8

/-!
# Reading JSON text

Text is a list of characters, and a reader takes a value off its front.  The grammar is the strict
one: no trailing comma, no leading zero, no unpaired surrogate.  Arrays and objects may be nested
127 deep.  A repeated key replaces the value and keeps its first position.

A text that cannot be read is either malformed or truncated, whichever shows first when reading from
left to right; a third fault, a value of another shape than expected, arises only in the readers of
`DocumentSearch.Json.Shape`.

Values that nobody asked for are skipped.  Skipping checks the grammar alone: numbers may be too
large, surrogates unpaired and nesting as deep as it likes.  A number that breaks off is malformed
when it is skipped and truncated when it is read.

Text may come as bytes that are not all text.  What is no text may stand in a string that is
skipped, and makes any other string malformed.  It is marked by the null character, which no JSON
text holds; in `symbols`, another control stands for that character itself.
-/

namespace DocumentSearch

namespace Json

/-- Why a text could not be read. -/
inductive Fault
  /-- The text is not JSON. -/
  | malformed
  /-- The text ends before its value does. -/
  | truncated
  /-- The value is not of the expected shape. -/
  | mismatch
deriving DecidableEq, Repr

/-- Takes a value off the front of a text. -/
abbrev Reader (α : Type) := List Char → Except Fault (α × List Char)

/-- What stands for a byte that is no text. -/
def badByte : Char := '\x00'

/-- A character as it is read: one control is as malformed as another. -/
def symbol (c : Char) : Char := if c = badByte then '\x01' else c

/-- The characters of a text as they are read. -/
def symbols (text : String) : List Char := text.toList.map symbol

/-- The characters of bytes as they are read. -/
def symbolsOfBytes (bytes : List UInt8) : List Char :=
  (Utf8.decode bytes).flatMap fun
    | .char c => [symbol c]
    | .bad length => List.replicate length badByte

/-- The characters that may stand between tokens. -/
def isBlank (c : Char) : Bool := c = ' ' || c = '\n' || c = '\t' || c = '\r'

/-- Drops the blanks at the front. -/
def skipBlanks (text : List Char) : List Char := text.dropWhile isBlank

/-- Drops a word from the front. -/
def expectWord : List Char → List Char → Except Fault (List Char)
  | [], text => .ok text
  | _ :: _, [] => .error .truncated
  | expected :: word, c :: rest => if c = expected then expectWord word rest else .error .malformed

/-! ## Strings -/

/-- The value of a hexadecimal digit. -/
def hexValue? (c : Char) : Option Nat :=
  if '0' ≤ c ∧ c ≤ '9' then some (c.toNat - '0'.toNat)
  else if 'a' ≤ c ∧ c ≤ 'f' then some (c.toNat - 'a'.toNat + 10)
  else if 'A' ≤ c ∧ c ≤ 'F' then some (c.toNat - 'A'.toNat + 10)
  else none

/-- The character that an escape of one letter stands for. -/
def simpleEscape? (c : Char) : Option Char :=
  if c = '"' ∨ c = '\\' ∨ c = '/' then some c
  else if c = 'b' then some '\x08'
  else if c = 'f' then some '\x0c'
  else if c = 'n' then some '\n'
  else if c = 'r' then some '\r'
  else if c = 't' then some '\t'
  else none

/-- Whether fewer than four bytes are left, so that no four-digit escape can follow. -/
def lacksFourBytes (text : List Char) : Bool :=
  decide ((text.take 4).foldl (fun size c => size + c.utf8Size) 0 < 4)

/-- The first half of a surrogate pair. -/
def isLeadingSurrogate (unit : Nat) : Bool := decide (0xD800 ≤ unit ∧ unit < 0xDC00)

/-- The second half of a surrogate pair. -/
def isTrailingSurrogate (unit : Nat) : Bool := decide (0xDC00 ≤ unit ∧ unit < 0xE000)

/-- The character that a surrogate pair stands for. -/
def pairedChar (leading trailing : Nat) : Char :=
  Char.ofNat (0x10000 + (leading - 0xD800) * 0x400 + (trailing - 0xDC00))

/-- Where a string literal is being read. -/
inductive StringState
  | plain
  /-- Behind a backslash. -/
  | escape
  /-- Inside a four-digit escape, behind the given leading surrogate if there is one. -/
  | digits (leading : Option Nat) (missing : Nat) (value : Nat)
  /-- Behind a leading surrogate. -/
  | paired (leading : Nat)
  /-- Behind a leading surrogate and a backslash. -/
  | pairedEscape (leading : Nat)

/-- Where reading goes on behind a complete four-digit escape, and the character it adds. -/
def finishDigits (lenient : Bool) (leading : Option Nat) (unit : Nat) :
    Except Fault (StringState × List Char) :=
  if lenient then .ok (.plain, [])
  else
    match leading with
    | none =>
        if isTrailingSurrogate unit then .error .malformed
        else if isLeadingSurrogate unit then .ok (.paired unit, [])
        else .ok (.plain, [Char.ofNat unit])
    | some first =>
        if isTrailingSurrogate unit then .ok (.plain, [pairedChar first unit])
        else .error .malformed

/-- Reads the rest of a string literal, its closing quotation mark included.  The characters read
so far are given in reverse, unless there was a byte that is no text. -/
def stringFrom (lenient : Bool) : StringState → Option (List Char) → Reader String
  | _, _, [] => .error .truncated
  | .plain, read, c :: rest =>
      if c = '"' then
        match read with
        | some read => .ok (String.ofList read.reverse, rest)
        | none => if lenient then .ok ("", rest) else .error .malformed
      else if c = '\\' then stringFrom lenient .escape read rest
      else if c = badByte then stringFrom lenient .plain none rest
      else if c < ' ' then .error .malformed
      else stringFrom lenient .plain (read.map (c :: ·)) rest
  | .escape, read, c :: rest =>
      if c = 'u' then
        if lacksFourBytes rest then .error .truncated
        else stringFrom lenient (.digits none 4 0) read rest
      else
        match simpleEscape? c with
        | some meant => stringFrom lenient .plain (read.map (meant :: ·)) rest
        | none => .error .malformed
  | .digits leading missing value, read, c :: rest =>
      match hexValue? c with
      | none => .error .malformed
      | some digit =>
          let value := value * 16 + digit
          if 1 < missing then stringFrom lenient (.digits leading (missing - 1) value) read rest
          else
            match finishDigits lenient leading value with
            | .error fault => .error fault
            | .ok (state, added) => stringFrom lenient state (read.map (added ++ ·)) rest
  | .paired leading, read, c :: rest =>
      if c = '\\' then stringFrom lenient (.pairedEscape leading) read rest
      else .error .malformed
  | .pairedEscape leading, read, c :: rest =>
      if c = 'u' then
        if lacksFourBytes rest then .error .truncated
        else stringFrom lenient (.digits (some leading) 4 0) read rest
      else .error .malformed

/-- Reads a string literal behind its opening quotation mark. -/
def stringBody : Reader String := stringFrom false .plain (some [])

/-- Skips a string literal behind its opening quotation mark. -/
def skipStringBody : Reader String := stringFrom true .plain none

/-! ## Numbers -/

/-- The digits at the front of a text, as values. -/
def spanDigits (text : List Char) : List Nat × List Char :=
  ((text.takeWhile Char.isDigit).map fun c => c.toNat - '0'.toNat, text.dropWhile Char.isDigit)

/-- One or more digits. -/
def someDigits : Reader (List Nat) := fun text =>
  match spanDigits text with
  | ([], []) => .error .truncated
  | ([], _ :: _) => .error .malformed
  | (digits, rest) => .ok (digits, rest)

/-- The digits before the point: a lone zero, or digits that start with another one. -/
def wholeDigits : Reader (List Nat) := fun text => do
  let (digits, rest) ← someDigits text
  match digits with
  | 0 :: _ :: _ => .error .malformed
  | digits => .ok (digits, rest)

/-- The digits after the point, if there is one. -/
def fractionDigits : Reader (Option (List Nat))
  | '.' :: text => do
      let (digits, rest) ← someDigits text
      .ok (some digits, rest)
  | text => .ok (none, text)

/-- The value of digits. -/
def natOfDigits (digits : List Nat) : Nat :=
  digits.foldl (fun value digit => value * 10 + digit) 0

/-- The exponent, if there is one. -/
def exponentPart : Reader (Option Int)
  | c :: text =>
      if c = 'e' ∨ c = 'E' then
        match text with
        | '-' :: text => do
            let (digits, rest) ← someDigits text
            .ok (some (-(natOfDigits digits : Int)), rest)
        | '+' :: text => do
            let (digits, rest) ← someDigits text
            .ok (some (natOfDigits digits : Int), rest)
        | text => do
            let (digits, rest) ← someDigits text
            .ok (some (natOfDigits digits : Int), rest)
      else .ok (none, c :: text)
  | [] => .ok (none, [])

/-- A numeral without its sign. -/
def numeral : Reader Numeral := fun text => do
  let (whole, text) ← wholeDigits text
  let (fraction, text) ← fractionDigits text
  let (exponent, rest) ← exponentPart text
  .ok (⟨whole, fraction, exponent⟩, rest)

/-- The number of a numeral; negative zero is a double. -/
def numberOf? (negative : Bool) (numeral : Numeral) : Option Number :=
  let double? := (numeral.toBinary64? negative).bind Number.ofBinary64?
  match numeral.natural? with
  | some value =>
      if negative then
        if 0 < value ∧ value ≤ Int64.minValue.toInt.natAbs then Number.ofInt? (-value) else double?
      else Number.ofInt? value
  | none => double?

/-- Reads a number behind its sign; one beyond the range of doubles is malformed. -/
def numberBody (negative : Bool) : Reader Number := fun text => do
  let (numeral, rest) ← numeral text
  match numberOf? negative numeral with
  | some value => .ok (value, rest)
  | none => .error .malformed

/-- Reads a number together with its sign. -/
def number? : List Char → Option (Except Fault (Number × List Char))
  | '-' :: text => some (numberBody true text)
  | c :: text => if c.isDigit then some (numberBody false (c :: text)) else none
  | [] => none

/-! ## Arrays and objects -/

/-- Reads the items behind an opening bracket, and the closing one, carrying a state from item to
item.  Every item takes a character, so the length of the text bounds their number. -/
def foldItems {σ : Type} (step : σ → Reader σ) : Nat → Bool → σ → Reader σ
  | 0, _, _, _ => .error .truncated
  | bound + 1, first, state, text =>
      match skipBlanks text with
      | [] => .error .truncated
      | c :: rest =>
          if c = ']' then .ok (state, rest)
          else if first then do
            let (state, rest) ← step state (c :: rest)
            foldItems step bound false state rest
          else if c = ',' then
            match skipBlanks rest with
            | [] => .error .truncated
            | ']' :: _ => .error .malformed
            | rest => do
                let (state, rest) ← step state rest
                foldItems step bound false state rest
          else .error .malformed

/-- Drops the colon between a key and its value. -/
def colon (text : List Char) : Except Fault (List Char) :=
  match skipBlanks text with
  | [] => .error .truncated
  | ':' :: rest => .ok rest
  | _ => .error .malformed

/-- Reads the entries behind an opening brace, and the closing one, carrying a state from entry to
entry.  The step starts behind the key. -/
def foldEntries {σ : Type} (key : Reader String) (step : σ → String → Reader σ) :
    Nat → Bool → σ → Reader σ
  | 0, _, _, _ => .error .truncated
  | bound + 1, first, state, text =>
      match skipBlanks text with
      | [] => .error .truncated
      | '}' :: rest => .ok (state, rest)
      | c :: rest =>
          match (if first then .ok (c :: rest)
            else if c = ',' then .ok (skipBlanks rest)
            else .error .malformed : Except Fault (List Char)) with
          | .error fault => .error fault
          | .ok [] => .error .truncated
          | .ok ('"' :: rest) => do
              let (name, rest) ← key rest
              let (state, rest) ← step state name rest
              foldEntries key step bound false state rest
          | .ok _ => .error .malformed

/-- A value whose arrays and objects are read by `inner`, if they may be read at all. -/
def valueWith (inner : Option (Reader Json)) : Reader Json := fun text =>
  match skipBlanks text with
  | [] => .error .truncated
  | 'n' :: rest => do return (.null, ← expectWord ['u', 'l', 'l'] rest)
  | 't' :: rest => do return (.bool true, ← expectWord ['r', 'u', 'e'] rest)
  | 'f' :: rest => do return (.bool false, ← expectWord ['a', 'l', 's', 'e'] rest)
  | '"' :: rest => do
      let (value, rest) ← stringBody rest
      return (.string value, rest)
  | '[' :: rest =>
      match inner with
      | none => .error .malformed
      | some read => do
          let (items, rest) ← foldItems (fun items text => do
            let (item, rest) ← read text
            return (item :: items, rest)) (rest.length + 1) true [] rest
          return (.array items.reverse, rest)
  | '{' :: rest =>
      match inner with
      | none => .error .malformed
      | some read => do
          let (entries, rest) ← foldEntries stringBody (fun entries key text => do
            let (value, rest) ← read (← colon text)
            return (Entries.put key value entries, rest)) (rest.length + 1) true [] rest
          return (.object entries, rest)
  | text =>
      match number? text with
      | some result => do
          let (value, rest) ← result
          return (.number value, rest)
      | none => .error .malformed

/-- A value with arrays and objects nested at most `depth` deep. -/
def value : Nat → Reader Json
  | 0 => valueWith none
  | depth + 1 => valueWith (some (value depth))

/-- Skips a number behind its sign.  One that is cut off by the end of the text counts as malformed
here. -/
def skipNumber : Reader Unit := fun text =>
  match numeral text with
  | .ok (_, rest) => .ok ((), rest)
  | .error _ => .error .malformed

/-- Skips a value in a text of at most `bound + 1` characters, whose arrays and objects are skipped
by `inner`. -/
def skipWith (bound : Nat) (inner : Reader Unit) : Reader Unit := fun text =>
  match skipBlanks text with
  | [] => .error .truncated
  | 'n' :: rest => do return ((), ← expectWord ['u', 'l', 'l'] rest)
  | 't' :: rest => do return ((), ← expectWord ['r', 'u', 'e'] rest)
  | 'f' :: rest => do return ((), ← expectWord ['a', 'l', 's', 'e'] rest)
  | '"' :: rest => do return ((), (← skipStringBody rest).2)
  | '[' :: rest => foldItems (fun _ => inner) (bound + 1) true () rest
  | '{' :: rest =>
      foldEntries skipStringBody (fun _ _ text => do inner (← colon text)) (bound + 1) true () rest
  | '-' :: rest => skipNumber rest
  | c :: rest => if c.isDigit then skipNumber (c :: rest) else .error .malformed

/-- Skips a value in a text of at most `bound` characters. -/
def skip : Nat → Reader Unit
  | 0 => skipWith 0 fun _ => .error .malformed
  | bound + 1 => skipWith bound (skip bound)

/-- Skips any value: it is nested no deeper than the text is long. -/
def skipValue : Reader Unit := fun text => skip text.length text

/-- How deep arrays and objects may be nested. -/
def depthLimit : Nat := 127

/-- Reads a whole text: nothing but blanks may follow the value. -/
def readAll {α : Type} (read : Reader α) (text : List Char) : Except Fault α := do
  let (value, rest) ← read text
  if (skipBlanks rest).isEmpty then return value else .error .malformed

/-- The value that a text holds. -/
def ofText (text : String) : Except Fault Json := readAll (value depthLimit) (symbols text)

end Json

end DocumentSearch
