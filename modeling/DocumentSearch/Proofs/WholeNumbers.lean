import DocumentSearch.Number.Binary64
import Mathlib.Algebra.Order.Ring.Nat

/-!
# Whole numbers in the binary64 format

Every natural number up to `2 ^ 53` has a value of its own in the binary64 format.  A sum is rounded
only once it is exact, so such numbers are added up without loss as long as their sum is one of them.
Numbers that take 64 bits are eleven bits wider than a significand: of them, the multiples of `2048`
are kept and the others go to the nearest one.
-/

namespace DocumentSearch

namespace Binary64

theorem leadingOne_eq : leadingOne = 2 ^ 52 := by decide

theorem signBit_eq : signBit = 2 ^ 63 := by decide

theorem infinityPattern_eq : infinityPattern = 2047 * 2 ^ 52 := by decide

theorem one_shiftLeft_eq (places : Nat) : 1 <<< places = 2 ^ places := Nat.one_shiftLeft places

theorem unitsPerOne_eq : unitsPerOne = 2 ^ 1074 := one_shiftLeft_eq 1074

/-- Whether a value is positive and finite, and is written with a leading one: its units are this
significand, shifted. -/
structure IsNormal (value : Binary64) (significand shift : Nat) : Prop where
  leading : 2 ^ 52 ≤ significand
  bounded : significand < 2 ^ 53
  moderate : shift ≤ 2045
  pattern : value.bits.toNat = shift * 2 ^ 52 + significand

/-- Whether a value is the natural number. -/
structure IsWhole (value : Binary64) (number : Nat) : Prop where
  nonnegative : value.isNegative = false
  finite : value.isFinite = true
  units : value.units = number * unitsPerOne

namespace IsNormal

variable {value : Binary64} {significand shift : Nat}

theorem magnitude (normal : value.IsNormal significand shift) :
    value.magnitude = shift * 2 ^ 52 + significand := by
  obtain ⟨leading, bounded, moderate, pattern⟩ := normal
  rw [Binary64.magnitude, signBit_eq, pattern]
  omega

theorem isNegative (normal : value.IsNormal significand shift) : value.isNegative = false := by
  obtain ⟨leading, bounded, moderate, pattern⟩ := normal
  rw [Binary64.isNegative, signBit_eq, pattern, decide_eq_false_iff_not]
  omega

theorem isFinite (normal : value.IsNormal significand shift) : value.isFinite = true := by
  rw [Binary64.isFinite, normal.magnitude, infinityPattern_eq, decide_eq_true_eq]
  obtain ⟨leading, bounded, moderate, pattern⟩ := normal
  omega

theorem units (normal : value.IsNormal significand shift) :
    value.units = significand * 2 ^ shift := by
  have magnitude := normal.magnitude
  obtain ⟨leading, bounded, moderate, pattern⟩ := normal
  have sameSignificand : value.significand = significand := by
    rw [Binary64.significand, leadingOne_eq, magnitude, if_neg (by omega)]
    omega
  have sameShift : value.shift = shift := by
    rw [Binary64.shift, leadingOne_eq, magnitude]
    omega
  rw [Binary64.units, sameSignificand, sameShift, Nat.shiftLeft_eq]

end IsNormal

theorem roundQuotient_mul (quotient : Nat) {denominator : Nat} (positive : 0 < denominator) :
    roundQuotient (quotient * denominator) denominator = quotient := by
  simp [roundQuotient, positive]

/-- A rounded quotient is one of the two natural numbers around the quotient. -/
theorem roundQuotient_bounds (numerator denominator : Nat) :
    numerator / denominator ≤ roundQuotient numerator denominator ∧
      roundQuotient numerator denominator ≤ numerator / denominator + 1 := by
  unfold roundQuotient
  dsimp only
  split
  · omega
  · split <;> omega

theorem roundQuotient_mul_mul (numerator denominator : Nat) {factor : Nat} (positive : 0 < factor) :
    roundQuotient (numerator * factor) (denominator * factor) =
      roundQuotient numerator denominator := by
  have double : 2 * (numerator % denominator * factor) = 2 * (numerator % denominator) * factor :=
    (Nat.mul_assoc ..).symm
  unfold roundQuotient
  simp only [Nat.mul_div_mul_right _ _ positive, Nat.mul_mod_mul_right, double,
    Nat.mul_lt_mul_right positive]

/-- A number comes back from its rounded quotient exactly when it is a multiple. -/
theorem roundQuotient_mul_eq_iff {numerator denominator : Nat} (positive : 0 < denominator) :
    roundQuotient numerator denominator * denominator = numerator ↔ denominator ∣ numerator := by
  constructor
  · intro same
    exact ⟨roundQuotient numerator denominator, by rw [Nat.mul_comm, same]⟩
  · rintro ⟨quotient, rfl⟩
    rw [Nat.mul_comm denominator, roundQuotient_mul quotient positive]

/-- The pattern of units that are wider than a significand by `shift` bits. -/
theorem toNat_bits_ofUnits {magnitude shift : Nat} (low : 2 ^ 52 * 2 ^ shift ≤ magnitude)
    (high : magnitude < 2 ^ 53 * 2 ^ shift)
    (finite : shift * 2 ^ 52 + roundQuotient magnitude (2 ^ shift) < 2047 * 2 ^ 52) :
    (ofUnits false magnitude 1).bits.toNat =
      shift * 2 ^ 52 + roundQuotient magnitude (2 ^ shift) := by
  have width : Nat.log2 magnitude = 52 + shift := by
    have nonzero : magnitude ≠ 0 := by
      have positive : 0 < 2 ^ 52 * 2 ^ shift := Nat.mul_pos (by decide) (Nat.two_pow_pos shift)
      omega
    rw [Nat.log2_eq_iff nonzero, pow_add, Nat.add_right_comm, pow_add]
    exact ⟨low, high⟩
  have dropped : Nat.log2 (magnitude / 1) + 1 - (fractionBits + 1) = shift := by
    rw [Nat.div_one, width, fractionBits]
    omega
  rw [ofUnits, dropped, one_shiftLeft_eq, leadingOne_eq, infinityPattern_eq, if_pos finite,
    ofMagnitude, if_neg (by decide), UInt64.toNat_ofNat']
  omega

theorem isNormal_ofUnits {significand shift : Nat} (leading : 2 ^ 52 ≤ significand)
    (bounded : significand < 2 ^ 53) (moderate : shift ≤ 2045) :
    (ofUnits false (significand * 2 ^ shift) 1).IsNormal significand shift := by
  have positive : 0 < 2 ^ shift := Nat.two_pow_pos shift
  -- All the width beyond the 53 bits of the significand is dropped, and it is zeros.
  have rounded : roundQuotient (significand * 2 ^ shift) (2 ^ shift) = significand :=
    roundQuotient_mul significand positive
  have pattern := toNat_bits_ofUnits (Nat.mul_le_mul_right _ leading)
    (Nat.mul_lt_mul_of_pos_right bounded positive) (by rw [rounded]; omega)
  rw [rounded] at pattern
  exact ⟨leading, bounded, moderate, pattern⟩

theorem ofNat_eq (number : Nat) : ofNat number = ofUnits false (number * unitsPerOne) 1 := by
  rw [ofNat, ofInt, decide_eq_false (Int.not_lt.mpr (Int.natCast_nonneg _)), Int.natAbs_natCast]

theorem exists_significand {number : Nat} (positive : 0 < number) (small : number ≤ 2 ^ 53) :
    ∃ significand shift, 2 ^ 52 ≤ significand ∧ significand < 2 ^ 53 ∧ shift ≤ 2045 ∧
      significand * 2 ^ shift = number * unitsPerOne := by
  obtain below | rfl := Nat.lt_or_eq_of_le small
  · have nonzero : number ≠ 0 := positive.ne'
    have digits : number.log2 ≤ 52 := Nat.lt_succ_iff.mp ((Nat.log2_lt nonzero).mpr below)
    obtain ⟨low, high⟩ := (Nat.log2_eq_iff nonzero).mp (rfl : number.log2 = number.log2)
    refine ⟨number * 2 ^ (52 - number.log2), 1022 + number.log2, ?_, ?_, by omega, ?_⟩
    · calc 2 ^ 52 = 2 ^ (number.log2 + (52 - number.log2)) := by rw [Nat.add_sub_of_le digits]
        _ = 2 ^ number.log2 * 2 ^ (52 - number.log2) := pow_add ..
        _ ≤ number * 2 ^ (52 - number.log2) := Nat.mul_le_mul_right _ low
    · calc number * 2 ^ (52 - number.log2)
          < 2 ^ (number.log2 + 1) * 2 ^ (52 - number.log2) :=
            Nat.mul_lt_mul_of_pos_right high (Nat.two_pow_pos _)
        _ = 2 ^ (number.log2 + 1 + (52 - number.log2)) := (pow_add ..).symm
        _ = 2 ^ 53 := by
            congr 1
            omega
    · have exponents : 52 - number.log2 + (1022 + number.log2) = 1074 := by omega
      rw [mul_assoc, ← pow_add, exponents, unitsPerOne_eq]
  -- The bound itself has 54 bits, the last of which is zero.
  · exact ⟨2 ^ 52, 1075, by decide, by decide, by decide, by decide +kernel⟩

theorem isWhole_ofNat {number : Nat} (small : number ≤ 2 ^ 53) :
    (ofNat number).IsWhole number := by
  obtain rfl | positive := Nat.eq_zero_or_pos number
  · exact ⟨by decide, by decide, by decide⟩
  · obtain ⟨significand, shift, leading, bounded, moderate, same⟩ :=
      exists_significand positive small
    have normal := isNormal_ofUnits leading bounded moderate
    rw [ofNat_eq, ← same]
    exact ⟨normal.isNegative, normal.isFinite, normal.units.trans same⟩

/-- A natural number that takes 64 bits becomes the nearest multiple of `2048`. -/
theorem isWhole_ofNat_of_wide {number : Nat} (low : 2 ^ 63 ≤ number) (high : number < 2 ^ 64) :
    (ofNat number).IsWhole (roundQuotient number 2048 * 2048) := by
  have positive : 0 < unitsPerOne := by decide
  have step : 2 ^ 1085 = 2048 * unitsPerOne := by decide +kernel
  have rounded : roundQuotient (number * unitsPerOne) (2 ^ 1085) = roundQuotient number 2048 := by
    rw [step]
    exact roundQuotient_mul_mul number 2048 positive
  obtain ⟨atLeast, atMost⟩ := roundQuotient_bounds number 2048
  have pattern : (ofNat number).bits.toNat = 1085 * 2 ^ 52 + roundQuotient number 2048 := by
    rw [ofNat_eq, ← rounded]
    refine toNat_bits_ofUnits ?_ ?_ ?_
    · rw [step, ← Nat.mul_assoc]
      exact Nat.mul_le_mul_right _ low
    · rw [step, ← Nat.mul_assoc]
      exact Nat.mul_lt_mul_of_pos_right high positive
    · rw [rounded]
      omega
  obtain fits | carried : roundQuotient number 2048 < 2 ^ 53 ∨
      roundQuotient number 2048 = 2 ^ 53 := by omega
  · have normal : (ofNat number).IsNormal (roundQuotient number 2048) 1085 :=
      ⟨by omega, fits, by decide, pattern⟩
    refine ⟨normal.isNegative, normal.isFinite, normal.units.trans ?_⟩
    rw [step, Nat.mul_assoc]
  -- The significand of the next power of two has one bit more than fits.
  · have normal : (ofNat number).IsNormal (2 ^ 52) 1086 :=
      ⟨by decide, by decide, by decide, by omega⟩
    refine ⟨normal.isNegative, normal.isFinite, normal.units.trans ?_⟩
    rw [carried]
    decide +kernel

theorem isWhole_ofInt_of_wide {value : Int} (low : 2 ^ 63 ≤ value) (high : value < 2 ^ 64) :
    (ofInt value).IsWhole (roundQuotient value.toNat 2048 * 2048) := by
  have same : ofNat value.toNat = ofInt value := by rw [ofNat, Int.toNat_of_nonneg (by omega)]
  rw [← same]
  exact isWhole_ofNat_of_wide (by omega) (by omega)

namespace IsWhole

variable {left right : Binary64} {first second number : Nat}

theorem isNaN (whole : left.IsWhole number) : left.isNaN = false := by
  have finite := whole.finite
  rw [isFinite, decide_eq_true_eq] at finite
  rw [Binary64.isNaN, decide_eq_false_iff_not]
  omega

theorem signedUnits (whole : left.IsWhole number) :
    left.signedUnits = (number * unitsPerOne : Nat) := by
  rw [Binary64.signedUnits, whole.nonnegative, whole.units]
  rfl

theorem add_eq (leftWhole : left.IsWhole first) (rightWhole : right.IsWhole second) :
    left.add right = ofNat (first + second) := by
  have total : left.signedUnits + right.signedUnits =
      ((first + second) * unitsPerOne : Nat) := by
    rw [leftWhole.signedUnits, rightWhole.signedUnits, Nat.add_mul, Int.natCast_add]
  have rounded : left.add right =
      if ((first + second) * unitsPerOne : Nat) = (0 : Int) then zero false
      else ofUnits (decide (((first + second) * unitsPerOne : Nat) < (0 : Int)))
        (((first + second) * unitsPerOne : Nat) : Int).natAbs 1 := by
    simp [add, leftWhole.isNaN, rightWhole.isNaN, leftWhole.finite, rightWhole.finite, total,
      leftWhole.nonnegative]
  rw [rounded]
  split
  · rename_i none
    have nothing : first + second = 0 := by
      obtain zero | impossible := Nat.mul_eq_zero.mp (Int.ofNat_eq_zero.mp none)
      · exact zero
      · exact absurd impossible (by decide)
    rw [nothing]
    decide
  · rw [decide_eq_false (Int.not_lt.mpr (Int.natCast_nonneg _)), Int.natAbs_natCast, ofNat_eq]

/-- Natural numbers are added up exactly while their sum is small enough. -/
theorem foldl_add (whole : left.IsWhole number) {sizes : List Nat}
    (small : number + sizes.sum ≤ 2 ^ 53) :
    (sizes.foldl (fun sum size => sum.add (ofNat size)) left).IsWhole (number + sizes.sum) := by
  induction sizes generalizing left number with
  | nil => exact whole
  | cons size rest ih =>
      rw [List.sum_cons] at small ⊢
      rw [← Nat.add_assoc]
      have next : (left.add (ofNat size)).IsWhole (number + size) := by
        rw [whole.add_eq (isWhole_ofNat (by omega))]
        exact isWhole_ofNat (by omega)
      exact ih next (by omega)

end IsWhole

end Binary64

end DocumentSearch
