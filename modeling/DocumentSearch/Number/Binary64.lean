/-!
# Binary floating-point numbers of 64 bits

A value is its bit pattern, so equality is decidable and no two spellings of a number are confused.
Every finite value is a whole multiple of the least positive one, `2 ^ -1074`; the multiple is
called its *units*.  Arithmetic is exact on units and then rounded once to the nearest value, a tie
going to the even significand.
-/

namespace DocumentSearch

/-- A number in the IEEE binary64 format, by its bit pattern. -/
structure Binary64 where
  bits : UInt64
deriving DecidableEq, Repr, Inhabited

namespace Binary64

/-- The number of bits of a significand after its leading one. -/
def fractionBits : Nat := 52

/-- The bit that holds the sign. -/
def signBit : Nat := 1 <<< 63

/-- The leading one of a significand. -/
def leadingOne : Nat := 1 <<< fractionBits

/-- The pattern of positive infinity: the least exponent field without finite values. -/
def infinityPattern : Nat := 2047 * leadingOne

/-- One is this many units. -/
def unitsPerOne : Nat := 1 <<< 1074

/-- The bit pattern without its sign. -/
def magnitude (value : Binary64) : Nat := value.bits.toNat % signBit

/-- Whether the sign bit is set. -/
def isNegative (value : Binary64) : Bool := decide (signBit ≤ value.bits.toNat)

/-- Neither infinite nor the result of an undefined operation. -/
def isFinite (value : Binary64) : Bool := decide (value.magnitude < infinityPattern)

/-- The value that stands for no number. -/
def isNaN (value : Binary64) : Bool := decide (infinityPattern < value.magnitude)

/-- The value with the given sign and unsigned bit pattern. -/
def ofMagnitude (negative : Bool) (pattern : Nat) : Binary64 :=
  ⟨UInt64.ofNat (if negative then signBit + pattern else pattern)⟩

/-- Positive or negative zero. -/
def zero (negative : Bool) : Binary64 := ofMagnitude negative 0

/-- Positive or negative infinity. -/
def infinity (negative : Bool) : Binary64 := ofMagnitude negative infinityPattern

/-- The quiet value that stands for no number. -/
def nan : Binary64 := ofMagnitude false (infinityPattern + leadingOne / 2)

/-- The significand of a finite value, its leading one included. -/
def significand (value : Binary64) : Nat :=
  if value.magnitude < leadingOne then value.magnitude
  else leadingOne + value.magnitude % leadingOne

/-- The power of two by which the significand of a finite value is multiplied to give its units. -/
def shift (value : Binary64) : Nat :=
  value.magnitude / leadingOne - 1

/-- The absolute value of a finite number as a multiple of the least positive one. -/
def units (value : Binary64) : Nat :=
  value.significand <<< value.shift

/-- The signed units of a finite number. -/
def signedUnits (value : Binary64) : Int :=
  if value.isNegative then -(value.units : Int) else value.units

/-- The natural number nearest to a quotient; a half goes to the even neighbour. -/
def roundQuotient (numerator denominator : Nat) : Nat :=
  let quotient := numerator / denominator
  let remainder := numerator % denominator
  if 2 * remainder < denominator then quotient
  else if denominator < 2 * remainder then quotient + 1
  else quotient + quotient % 2

/-- The value nearest to `numerator / denominator` units.  A significand that rounds up to the next
power of two carries into the exponent field by itself. -/
def ofUnits (negative : Bool) (numerator denominator : Nat) : Binary64 :=
  let width := Nat.log2 (numerator / denominator) + 1
  let shift := width - (fractionBits + 1)
  let pattern := shift * leadingOne + roundQuotient numerator (denominator <<< shift)
  if pattern < infinityPattern then ofMagnitude negative pattern else infinity negative

/-- The value nearest to an integer. -/
def ofInt (value : Int) : Binary64 :=
  ofUnits (decide (value < 0)) (value.natAbs * unitsPerOne) 1

/-- The value nearest to a natural number. -/
def ofNat (value : Nat) : Binary64 := ofInt value

/-- The value nearest to `significand * 10 ^ exponent`. -/
def ofDecimal (significand : Nat) (exponent : Int) : Binary64 :=
  ofUnits false (significand * Nat.pow 10 exponent.toNat * unitsPerOne)
    (Nat.pow 10 (-exponent).toNat)

/-- The product of two finite values, rounded. -/
def mul (left right : Binary64) : Binary64 :=
  ofUnits (left.isNegative != right.isNegative) (left.units * right.units) unitsPerOne

/-- The quotient of a finite value by a finite value other than zero, rounded. -/
def div (left right : Binary64) : Binary64 :=
  ofUnits (left.isNegative != right.isNegative) (left.units * unitsPerOne) right.units

/-- The sum of two values, rounded.  Opposite infinities have no sum, and a sum of zero is negative
only when both terms are. -/
def add (left right : Binary64) : Binary64 :=
  if left.isNaN || right.isNaN then nan
  else if !left.isFinite then
    if !right.isFinite && left.isNegative != right.isNegative then nan else left
  else if !right.isFinite then right
  else
    let total := left.signedUnits + right.signedUnits
    if total = 0 then zero (left.isNegative && right.isNegative)
    else ofUnits (decide (total < 0)) total.natAbs 1

/-- Whether the first value is at most the second; nothing is comparable to a value that is no
number, and the two zeros are equal. -/
def le (left right : Binary64) : Bool :=
  if left.isNaN || right.isNaN then false
  else decide (position left ≤ position right)
where
  /-- The place of a value in the order; infinities lie beyond every finite value. -/
  position (value : Binary64) : Int :=
    if value.isNegative then -(value.magnitude : Int) else value.magnitude

/-- The value with its sign cleared or set. -/
def withSign (value : Binary64) (negative : Bool) : Binary64 :=
  ofMagnitude negative value.magnitude

end Binary64

end DocumentSearch
