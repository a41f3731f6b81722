/-!
# Punycode

Text in letters, digits and hyphens.  The characters of ASCII come first, up to the last hyphen, and
behind it stands, for each other character, how far to count on from the one before it, where a
count runs through all places of the text and then on to the next character.  Counts are written in
digits to base 36, the least significant first; at each place a digit below a threshold ends the
count, and thresholds adapt to the counts that have been seen.

A count has at least one digit, so `decode?` takes no more steps than there are digits.
-/

namespace DocumentSearch

namespace Punycode

/-- The value of a digit. -/
def digitValue? (c : Char) : Option Nat :=
  if 'a' ≤ c ∧ c ≤ 'z' then some (c.toNat - 'a'.toNat)
  else if '0' ≤ c ∧ c ≤ '9' then some (c.toNat - '0'.toNat + 26)
  else none

/-- The threshold at a place, which is counted in steps of 36. -/
def threshold (place bias : Nat) : Nat := max 1 (min 26 (place - bias))

/-- Takes a count off the front of a text, from a place and with the weight of its digits on. -/
def readCount (bias : Nat) : Nat → Nat → Nat → List Char → Option (Nat × List Char)
  | _, _, _, [] => none
  | place, weight, sum, c :: rest => do
      let digit ← digitValue? c
      let sum := sum + digit * weight
      if digit < threshold place bias then some (sum, rest)
      else readCount bias (place + 36) (weight * (36 - threshold place bias)) sum rest

/-- Divides a count until it is small, and tells it with the places that took. -/
def settle : Nat → Nat → Nat → Nat × Nat
  | 0, places, count => (places, count)
  | bound + 1, places, count =>
      if 455 < count then settle bound (places + 36) (count / 35) else (places, count)

/-- The bias behind a count in a text of the given length. -/
def adapt (count length : Nat) (isFirst : Bool) : Nat :=
  let count := if isFirst then count / 700 else count / 2
  let (places, count) := settle count 0 (count + count / length)
  places + 36 * count / (count + 38)

/-- Where decoding stands: the text so far, the character that was inserted last, the place behind
it, and the bias. -/
structure State where
  text : List Char
  code : Nat
  place : Nat
  bias : Nat

/-- Inserts the character that a count leads to. -/
def State.insert? (state : State) (count : Nat) : Option State :=
  let length := state.text.length + 1
  let total := state.place + count
  let code := state.code + total / length
  let place := total % length
  if code.isValidChar then
    some ⟨state.text.take place ++ Char.ofNat code :: state.text.drop place, code, place + 1,
      adapt count length (state.place = 0)⟩
  else none

/-- Inserts the characters that counts lead to. -/
def insertAll : Nat → State → List Char → Option (List Char)
  | _, state, [] => some state.text
  | 0, _, _ :: _ => none
  | bound + 1, state, counts => do
      let (count, rest) ← readCount state.bias 36 1 0 counts
      insertAll bound (← state.insert? count) rest

/-- Splits a text at its last hyphen, unless it begins there. -/
def splitAtHyphen (text : List Char) : List Char × List Char :=
  let back := text.reverse
  match back.dropWhile (· ≠ '-') with
  | _ :: c :: front => ((c :: front).reverse, (back.takeWhile (· ≠ '-')).reverse)
  | _ => ([], text)

/-- The text that an encoded text in lower case stands for. -/
def decode? (text : List Char) : Option (List Char) :=
  let (front, counts) := splitAtHyphen text
  if front.all fun c => decide (c.toNat < 0x80) then
    insertAll counts.length ⟨front, 0x80, 0, 72⟩ counts
  else none

end Punycode

end DocumentSearch
