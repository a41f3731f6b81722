import DocumentSearch.Json.Printer
import DocumentSearch.Json.Reader
import Mathlib.Data.List.TakeWhile

/-!
# Integers are read back

An integer is printed by its decimal digits, the first of which is zero only for zero itself.  Reading
gathers digits as long as the significand fits into 64 bits, so that every integer of JSON comes back
from its text, the least and the greatest one included.
-/

namespace DocumentSearch

/-! ## Digits -/

/-- The values of the decimal digits of a number. -/
def Numeral.digitsOf (number : Nat) : List Nat :=
  (Nat.toDigits 10 number).map fun c => c.toNat - '0'.toNat

theorem isDigit_of_mem_toDigits {number : Nat} {c : Char} (member : c ∈ Nat.toDigits 10 number) :
    c.isDigit = true :=
  Nat.isDigit_of_mem_toDigits (by decide) (by decide) member

theorem foldl_toDigits (number : Nat) :
    (Nat.toDigits 10 number).foldl (fun value c => value * 10 + (c.toNat - '0'.toNat)) 0 =
      number := by
  refine Eq.trans ?_ Nat.ofDigitChars_ten_toDigits
  simp only [Nat.ofDigitChars_eq_foldl, Nat.mul_comm 10]

namespace Numeral

theorem foldl_digitsOf (number : Nat) :
    (digitsOf number).foldl (fun value digit => value * 10 + digit) 0 = number := by
  rw [digitsOf, List.foldl_map]
  exact foldl_toDigits number

theorem digitsOf_cases (number : Nat) :
    digitsOf number = [0] ∨ ∃ first rest, digitsOf number = (first + 1) :: rest := by
  induction number using Nat.base_induction 10 (by decide) with
  | single digit small =>
      have value : digit.digitChar.toNat - '0'.toNat = digit :=
        Nat.toNat_digitChar_sub_48_of_lt_ten small
      rw [digitsOf, Nat.toDigits_of_lt_base small, List.map_singleton, value]
      cases digit with
      | zero => exact .inl rfl
      | succ first => exact .inr ⟨first, [], rfl⟩
  | digit front last small positive ih =>
      have split : digitsOf (10 * front + last) = digitsOf front ++ digitsOf last := by
        rw [digitsOf, ← Nat.toDigits_append_toDigits (by decide) positive small, List.map_append]
        rfl
      obtain zero | ⟨first, rest, leading⟩ := ih
      · have nothing := foldl_digitsOf front
        rw [zero] at nothing
        exact absurd nothing positive.ne
      · exact .inr ⟨first, rest ++ digitsOf last, by rw [split, leading, List.cons_append]⟩

theorem le_foldl_digits (digits : List Nat) (start : Nat) :
    start ≤ digits.foldl (fun value digit => value * 10 + digit) start := by
  induction digits generalizing start with
  | nil => exact le_rfl
  | cons digit rest ih => exact le_trans (by omega) (ih (start * 10 + digit))

/-- All digits are gathered while their value is small enough. -/
theorem gather_of_le (digits : List Nat) {significand : Nat}
    (small : digits.foldl (fun value digit => value * 10 + digit) significand ≤ significandLimit) :
    gather significand digits =
      (digits.foldl (fun value digit => value * 10 + digit) significand, digits.length) := by
  induction digits generalizing significand with
  | nil => rfl
  | cons digit rest ih =>
      have fits : ¬significandLimit < significand * 10 + digit :=
        Nat.not_lt.mpr (le_trans (le_foldl_digits rest _) small)
      rw [gather, if_neg fits, ih small]
      rfl

theorem natural?_digitsOf {number : Nat} (small : number ≤ significandLimit) :
    natural? ⟨digitsOf number, none, none⟩ = some number := by
  have value := foldl_digitsOf number
  have gathered := gather_of_le (digitsOf number) (value.trans_le small)
  rw [value] at gathered
  simp [natural?, gathered]

end Numeral

namespace Json

open Numeral

/-! ## Numbers -/

theorem spanDigits_toDigits (number : Nat) :
    spanDigits (Nat.toDigits 10 number) = (digitsOf number, []) := by
  have all : ∀ c ∈ Nat.toDigits 10 number, c.isDigit = true := fun c => isDigit_of_mem_toDigits
  rw [spanDigits, List.takeWhile_eq_self_iff.mpr all, List.dropWhile_eq_nil_iff.mpr all]
  rfl

theorem numeral_toDigits (number : Nat) :
    numeral (Nat.toDigits 10 number) = .ok (⟨digitsOf number, none, none⟩, []) := by
  have whole : wholeDigits (Nat.toDigits 10 number) = .ok (digitsOf number, []) := by
    rw [wholeDigits, someDigits, spanDigits_toDigits]
    obtain zero | ⟨first, rest, leading⟩ := digitsOf_cases number
    · rw [zero]
      rfl
    · rw [leading]
      rfl
  rw [numeral, whole]
  rfl

theorem numberOf?_digitsOf (number : Nat) (small : number < 18446744073709551616) :
    numberOf? false ⟨digitsOf number, none, none⟩ =
      some (.integer number ⟨by omega, by omega⟩) := by
  have limit : significandLimit = 18446744073709551615 := by decide
  have fits : number ≤ significandLimit := by omega
  simp only [numberOf?, natural?_digitsOf fits, Bool.false_eq_true, if_false]
  exact dif_pos _

theorem numberOf?_digitsOf_negative (number : Nat) (positive : 0 < number)
    (small : number ≤ 9223372036854775808) :
    numberOf? true ⟨digitsOf number, none, none⟩ =
      some (.integer (-number) ⟨by omega, by omega⟩) := by
  have fits : number ≤ significandLimit := le_trans small (by decide)
  have within : 0 < number ∧ number ≤ Int64.minValue.toInt.natAbs := ⟨positive, small⟩
  simp only [numberOf?, natural?_digitsOf fits, if_true, if_pos within]
  exact dif_pos _

theorem numberBody_toDigits {negative : Bool} {number : Nat} {value : Number}
    (read : numberOf? negative ⟨digitsOf number, none, none⟩ = some value) :
    numberBody negative (Nat.toDigits 10 number) = .ok (value, []) := by
  rw [numberBody, numeral_toDigits]
  simp only [bind, Except.bind, read]

/-- The first character of a printed integer. -/
theorem integerChars_cases (value : Int) :
    (value < 0 ∧ integerChars value = '-' :: Nat.toDigits 10 value.natAbs) ∨
      0 ≤ value ∧ integerChars value = Nat.toDigits 10 value.natAbs ∧
        ∃ first rest, integerChars value = first :: rest ∧ first.isDigit = true := by
  obtain negative | nonnegative := Int.lt_or_le value 0
  · exact .inl ⟨negative, if_pos negative⟩
  · have printed : integerChars value = Nat.toDigits 10 value.natAbs :=
      if_neg (Int.not_lt.mpr nonnegative)
    have filled : Nat.toDigits 10 value.natAbs ≠ [] := Nat.toDigits_ne_nil
    obtain ⟨first, rest, parted⟩ := List.exists_cons_of_ne_nil filled
    refine .inr ⟨nonnegative, printed, first, rest, printed.trans parted, ?_⟩
    exact isDigit_of_mem_toDigits (parted ▸ List.mem_cons_self)

theorem ofList_integerChars (value : Int) : String.ofList (integerChars value) = toString value := by
  cases value with
  | ofNat number => rfl
  | negSucc number =>
      have negative : Int.negSucc number < 0 := Int.negSucc_lt_zero number
      rw [integerChars, if_pos negative, String.ofList_cons]
      rfl

theorem number?_integerChars {value : Int}
    (bounded : -9223372036854775808 ≤ value ∧ value < 18446744073709551616) :
    number? (integerChars value) = some (.ok (.integer value bounded, [])) := by
  obtain ⟨negative, printed⟩ | ⟨nonnegative, printed, first, rest, parted, digit⟩ :=
    integerChars_cases value
  · have read := numberOf?_digitsOf_negative value.natAbs (by omega) (by omega)
    have same : -(value.natAbs : Int) = value := by omega
    rw [printed, number?, numberBody_toDigits read]
    simp only [same]
  · have read := numberOf?_digitsOf value.natAbs (by omega)
    have same : (value.natAbs : Int) = value := by omega
    have unsigned : first ≠ '-' := by
      rintro rfl
      cases digit
    rw [parted, number?, if_pos digit, ← parted, printed, numberBody_toDigits read]
    · simp only [same]
    · exact unsigned

theorem valueWith_of_number? {inner : Option (Reader Json)} {first : Char} {rest : List Char}
    {result : Except Fault (Number × List Char)}
    (starts : first = '-' ∨ first.isDigit = true)
    (read : number? (first :: rest) = some result) :
    valueWith inner (first :: rest) = result >>= fun taken => .ok (.number taken.1, taken.2) := by
  have unlike : ∀ c : Char, c ≠ '-' → c.isDigit = false → first ≠ c := by
    rintro c noSign noDigit rfl
    obtain sign | digit := starts
    · exact noSign sign
    · rw [noDigit] at digit
      cases digit
  have blank : isBlank first = false := by
    have space := unlike ' ' (by decide) (by decide)
    have line := unlike '\n' (by decide) (by decide)
    have tab := unlike '\t' (by decide) (by decide)
    have start := unlike '\r' (by decide) (by decide)
    simp [isBlank, space, line, tab, start]
  have kept : skipBlanks (first :: rest) = first :: rest :=
    List.dropWhile_cons_of_neg (by simp [blank])
  unfold valueWith
  rw [kept]
  split
  · rename_i empty
    cases empty
  · rename_i same
    exact absurd (List.cons.inj same).1 (unlike 'n' (by decide) (by decide))
  · rename_i same
    exact absurd (List.cons.inj same).1 (unlike 't' (by decide) (by decide))
  · rename_i same
    exact absurd (List.cons.inj same).1 (unlike 'f' (by decide) (by decide))
  · rename_i same
    exact absurd (List.cons.inj same).1 (unlike '"' (by decide) (by decide))
  · rename_i same
    exact absurd (List.cons.inj same).1 (unlike '[' (by decide) (by decide))
  · rename_i same
    exact absurd (List.cons.inj same).1 (unlike '\x7b' (by decide) (by decide))
  · rw [read]
    rfl

theorem symbols_toString (value : Int) : symbols (toString value) = integerChars value := by
  have plain : ∀ c ∈ integerChars value, symbol c = c := by
    intro c member
    refine if_neg ?_
    rintro rfl
    obtain ⟨_, printed⟩ | ⟨_, printed, _⟩ := integerChars_cases value
    · rw [printed] at member
      obtain sign | digit := List.mem_cons.mp member
      · cases sign
      · cases isDigit_of_mem_toDigits digit
    · rw [printed] at member
      cases isDigit_of_mem_toDigits member
  rw [← ofList_integerChars, symbols, String.toList_ofList, List.map_congr_left plain, List.map_id']

/-- Every integer of JSON is read back from its decimal text. -/
theorem ofText_toString {value : Int}
    (bounded : -9223372036854775808 ≤ value ∧ value < 18446744073709551616) :
    ofText (toString value) = .ok (.number (.integer value bounded)) := by
  have read := number?_integerChars bounded
  have whole : Json.value depthLimit (integerChars value) =
      .ok (.number (.integer value bounded), []) := by
    obtain ⟨_, printed⟩ | ⟨_, _, first, rest, parted, digit⟩ := integerChars_cases value
    · rw [printed] at read ⊢
      exact valueWith_of_number? (.inl rfl) read
    · rw [parted] at read ⊢
      exact valueWith_of_number? (.inr digit) read
  rw [ofText, symbols_toString, readAll, whole]
  rfl

end Json

end DocumentSearch
