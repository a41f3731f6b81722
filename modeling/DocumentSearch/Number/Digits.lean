import DocumentSearch.Number.Binary64

/-!
# Shortest decimal digits

The digits of a finite value are the fewest that read back as the same value.  Of several decimals
with that many digits the nearest is taken, and of two equally near ones the even one.

A decimal reads back when it lies between the midpoints to the two neighbouring values; a midpoint
itself belongs to the value with the even significand.  The decimals of a given number of digits
form a grid, so only the two grid points around the value have to be tried.  All comparisons are
between natural numbers: values, midpoints and grid points are multiplied by the same factor.
-/

namespace DocumentSearch

/-- A positive decimal number `digits * 10 ^ exponent`. -/
structure Decimal where
  digits : Nat
  exponent : Int
deriving DecidableEq, Repr, Inhabited

namespace Decimal

/-- Drops trailing zeros of the digits; at most `count` of them. -/
def trim : Nat → Decimal → Decimal
  | 0, decimal => decimal
  | count + 1, decimal =>
      if decimal.digits ≠ 0 ∧ decimal.digits % 10 = 0 then
        trim count ⟨decimal.digits / 10, decimal.exponent + 1⟩
      else decimal

/-- The digits as characters. -/
def digitChars (decimal : Decimal) : List Char := Nat.toDigits 10 decimal.digits

/-- The exponent of the first digit. -/
def leadingExponent (decimal : Decimal) : Int :=
  decimal.exponent + decimal.digitChars.length - 1

end Decimal

namespace Binary64

/-- A power of ten by which every positive value exceeds ten to the seventeenth. -/
def decimalScale : Nat := 343

/-- The interval of decimals that read back as one value.  All numbers are multiples of the same
unit, a quarter of the least positive value divided by `10 ^ decimalScale`. -/
structure Neighbourhood where
  lower : Nat
  centre : Nat
  upper : Nat
  /-- Whether the ends belong to the interval. -/
  closed : Bool

/-- The interval of a positive finite value.  Below a power of two the neighbours are twice as
close. -/
def neighbourhood (value : Binary64) : Neighbourhood :=
  let scale := Nat.pow 10 decimalScale <<< value.shift
  let narrow := decide (value.significand = leadingOne ∧ 0 < value.shift)
  let centre := 4 * value.significand * scale
  { lower := centre - (if narrow then scale else 2 * scale)
    centre := centre
    upper := centre + 2 * scale
    closed := value.significand % 2 = 0 }

/-- Whether a number lies in the interval. -/
def Neighbourhood.contains (interval : Neighbourhood) (point : Nat) : Bool :=
  if interval.closed then decide (interval.lower ≤ point ∧ point ≤ interval.upper)
  else decide (interval.lower < point ∧ point < interval.upper)

/-- The multiple of `step` that lies in the interval and is nearest to its centre. -/
def Neighbourhood.onGrid? (interval : Neighbourhood) (step : Nat) : Option Nat :=
  let below := interval.centre / step
  let above := below + 1
  match interval.contains (below * step), interval.contains (above * step) with
  | false, false => none
  | true, false => some below
  | false, true => some above
  | true, true =>
      let down := interval.centre - below * step
      let up := above * step - interval.centre
      if down < up then some below
      else if up < down then some above
      else some (below + below % 2)

/-- Tries grids of one digit more each, starting with `count` digits. -/
def shortestFrom (interval : Neighbourhood) (leading : Int) (count : Nat) : Nat → Decimal
  | 0 => ⟨0, 0⟩
  | tries + 1 =>
      let exponent := leading + 1 - count
      let step := Nat.pow 10 (exponent + decimalScale).toNat * (4 * unitsPerOne)
      match interval.onGrid? step with
      | some digits => Decimal.trim 17 ⟨digits, exponent⟩
      | none => shortestFrom interval leading (count + 1) tries

/-- The shortest decimal that reads back as a positive finite value. -/
def shortest (value : Binary64) : Decimal :=
  let interval := value.neighbourhood
  let leading : Int :=
    (Nat.toDigits 10 (interval.centre / (4 * unitsPerOne))).length - 1 - decimalScale
  shortestFrom interval leading 1 17

end Binary64

/-- How a format writes a decimal number. -/
structure DecimalStyle where
  /-- The leading exponents that are written without an exponent part. -/
  positional : Int → Bool
  /-- Whether a whole number written positionally ends in `.0`. -/
  markWhole : Bool

namespace DecimalStyle

/-- The digits with the point where the exponent puts it and no exponent part. -/
def positionalText (style : DecimalStyle) (decimal : Decimal) : List Char :=
  let digits := decimal.digitChars
  if 0 ≤ decimal.exponent then
    digits ++ List.replicate decimal.exponent.toNat '0' ++
      (if style.markWhole then ['.', '0'] else [])
  else
    let places := (-decimal.exponent).toNat
    if places < digits.length then
      digits.take (digits.length - places) ++ '.' :: digits.drop (digits.length - places)
    else ['0', '.'] ++ List.replicate (places - digits.length) '0' ++ digits

/-- One digit before the point and a signed exponent. -/
def scientificText (decimal : Decimal) : List Char :=
  let digits := decimal.digitChars
  let exponent := decimal.leadingExponent
  digits.take 1 ++ (if 1 < digits.length then '.' :: digits.drop 1 else []) ++
    ['e', if exponent < 0 then '-' else '+'] ++ Nat.toDigits 10 exponent.natAbs

/-- The text of a finite value. -/
def text (style : DecimalStyle) (value : Binary64) : List Char :=
  let sign := if value.isNegative then ['-'] else []
  if value.units = 0 then sign ++ '0' :: (if style.markWhole then ['.', '0'] else [])
  else
    let decimal := value.shortest
    if style.positional decimal.leadingExponent then sign ++ style.positionalText decimal
    else sign ++ scientificText decimal

end DecimalStyle

end DocumentSearch
