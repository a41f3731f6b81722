import DocumentSearch.Number.Binary64

/-!
# From numerals to numbers

A numeral is read in two rounded steps.  First its digits are gathered into a significand of 64
bits; digits that no longer fit are left out.  Then the significand, as the nearest double, is
multiplied or divided by a power of ten.  Short numerals come out exactly; a long one may miss the
nearest double by its last bit.
-/

namespace DocumentSearch

/-- The parts of a numeral without its sign: the digits before and after the point and the
exponent, if one is written. -/
structure Numeral where
  whole : List Nat
  fraction : Option (List Nat)
  exponent : Option Int
deriving DecidableEq, Repr

namespace Numeral

/-- The largest significand. -/
def significandLimit : Nat := UInt64.size - 1

/-- Appends digits to a significand as long as it fits; also the number of digits taken. -/
def gather (significand : Nat) : List Nat → Nat × Nat
  | [] => (significand, 0)
  | digit :: rest =>
      if significandLimit < significand * 10 + digit then (significand, 0)
      else
        let (gathered, taken) := gather (significand * 10 + digit) rest
        (gathered, taken + 1)

/-- The gathered significand and the power of ten it stands at. -/
def scaled (numeral : Numeral) : Nat × Int :=
  let (wholePart, wholeTaken) := gather 0 numeral.whole
  let (significand, fractionTaken) := gather wholePart (numeral.fraction.getD [])
  let written := numeral.exponent.getD 0
  (significand, written + (numeral.whole.length - wholeTaken : Nat) - fractionTaken)

/-- The value as an integer, when there is neither point nor exponent and every digit fits. -/
def natural? (numeral : Numeral) : Option Nat :=
  let (significand, taken) := gather 0 numeral.whole
  if numeral.fraction.isNone && numeral.exponent.isNone && taken = numeral.whole.length then
    some significand
  else none

/-- The largest power of ten that is a double. -/
def largestPower : Nat := 308

/-- A power of ten as a double. -/
def powerOfTen (exponent : Nat) : Binary64 := Binary64.ofDecimal 1 exponent

/-- Divides by a power of ten, in several rounded steps when the power is no double. -/
def shrink (value : Binary64) (exponent : Nat) : Binary64 :=
  if exponent ≤ largestPower then value.div (powerOfTen exponent)
  else if value.units = 0 then value
  else shrink (value.div (powerOfTen largestPower)) (exponent - largestPower)
termination_by exponent
decreasing_by
  simp only [largestPower] at *
  omega

/-- The double of a significand times a power of ten; nothing when it is too large. -/
def scale? (significand : Nat) (exponent : Int) : Option Binary64 :=
  let value := Binary64.ofNat significand
  if exponent < 0 then some (shrink value exponent.natAbs)
  else if significand = 0 then some value
  else if exponent ≤ largestPower then
    let product := value.mul (powerOfTen exponent.natAbs)
    if product.isFinite then some product else none
  else none

/-- The double of a numeral, if it is not too large. -/
def toBinary64? (numeral : Numeral) (negative : Bool) : Option Binary64 :=
  let (significand, exponent) := numeral.scaled
  (scale? significand exponent).map fun value => value.withSign negative

end Numeral

end DocumentSearch
