import DocumentSearch.Proofs.Decimals

/-!
# Numerals are read to their end

A number is printed as a numeral: digits with a sign, a fraction and an exponent, the last three of
which may be missing.  Whatever a numeral is read as, it is read to its end, unless a character of a
numeral stands behind it.
-/

namespace DocumentSearch

namespace Json

variable {text rest : List Char}

/-- Whether a text is made of digits, one of them at least. -/
def IsDigits (text : List Char) : Prop := text ≠ [] ∧ ∀ c ∈ text, c.isDigit = true

/-- Whether a text is a point with digits behind it, or empty. -/
inductive IsFraction : List Char → Prop
  | none : IsFraction []
  | point {text : List Char} (digits : IsDigits text) : IsFraction ('.' :: text)

/-- Whether a text is an exponent with a sign, or empty. -/
inductive IsExponent : List Char → Prop
  | none : IsExponent []
  | signed {sign : Char} {text : List Char} (signs : sign = '-' ∨ sign = '+')
      (digits : IsDigits text) : IsExponent ('e' :: sign :: text)

/-- Whether a text is a numeral without a sign. -/
structure IsUnsigned (text : List Char) : Prop where
  parts : ∃ whole fraction exponent, IsDigits whole ∧ IsFraction fraction ∧ IsExponent exponent ∧
    text = whole ++ (fraction ++ exponent)

/-- Whether a text is a numeral. -/
inductive IsNumeral : List Char → Prop
  | positive {text : List Char} (unsigned : IsUnsigned text) : IsNumeral text
  | negative {text : List Char} (unsigned : IsUnsigned text) : IsNumeral ('-' :: text)

/-- Whether a text may stand behind a numeral: it does not start with a character of one. -/
def Ends : List Char → Prop
  | [] => True
  | c :: _ => c.isDigit = false ∧ c ≠ '.' ∧ c ≠ 'e' ∧ c ≠ 'E'

/-! ## Reading numerals -/

/-- Whether a text may stand behind digits. -/
def EndsDigits (text : List Char) : Prop := ∀ c ∈ text.head?, c.isDigit = false

theorem Ends.endsDigits (ends : Ends rest) : EndsDigits rest := by
  cases rest with
  | nil => exact fun c member => nomatch member
  | cons c rest =>
      rintro _ ⟨⟩
      exact ends.1

theorem endsDigits_exponent (part : IsExponent text) (ends : Ends rest) :
    EndsDigits (text ++ rest) := by
  cases part with
  | none => exact ends.endsDigits
  | signed =>
      rintro _ ⟨⟩
      rfl

theorem endsDigits_fraction {exponent : List Char} (part : IsFraction text)
    (exponentPart : IsExponent exponent) (ends : Ends rest) :
    EndsDigits (text ++ (exponent ++ rest)) := by
  cases part with
  | none =>
      rw [List.nil_append]
      exact endsDigits_exponent exponentPart ends
  | point =>
      rintro _ ⟨⟩
      rfl

theorem someDigits_append (digits : IsDigits text) (ends : EndsDigits rest) :
    someDigits (text ++ rest) = .ok (text.map fun c => c.toNat - '0'.toNat, rest) := by
  have front : (text ++ rest).takeWhile Char.isDigit = text := by
    rw [List.takeWhile_append_of_pos digits.2]
    cases rest with
    | nil => simp
    | cons c rest => simp [ends c rfl]
  have behind : (text ++ rest).dropWhile Char.isDigit = rest := by
    rw [List.dropWhile_append_of_pos digits.2]
    cases rest with
    | nil => rfl
    | cons c rest => simp [ends c rfl]
  rw [someDigits, spanDigits, front, behind]
  obtain ⟨c, others, rfl⟩ := List.exists_cons_of_ne_nil digits.1
  rfl

/-- The digits of a whole number are refused when they start with a zero too many. -/
theorem wholeDigits_append (digits : IsDigits text) :
    ∃ outcome : Except Fault (List Nat), ∀ rest, EndsDigits rest →
      wholeDigits (text ++ rest) = outcome.map fun digits => (digits, rest) := by
  have read (rest : List Char) (ends : EndsDigits rest) := someDigits_append digits ends
  generalize (text.map fun c => c.toNat - '0'.toNat) = values at read
  by_cases leading : ∃ second others, values = 0 :: second :: others
  · obtain ⟨second, others, rfl⟩ := leading
    refine ⟨.error .malformed, fun rest ends => ?_⟩
    rw [wholeDigits, read rest ends]
    rfl
  · refine ⟨.ok values, fun rest ends => ?_⟩
    rw [wholeDigits, read rest ends]
    obtain _ | ⟨_ | digit, _ | ⟨second, others⟩⟩ := values
    · rfl
    · rfl
    · exact absurd ⟨second, others, rfl⟩ leading
    · rfl
    · rfl

theorem fractionDigits_append {exponent : List Char} (part : IsFraction text)
    (exponentPart : IsExponent exponent) :
    ∃ digits : Option (List Nat), ∀ rest, Ends rest →
      fractionDigits (text ++ (exponent ++ rest)) = .ok (digits, exponent ++ rest) := by
  cases part with
  | @point behind digits =>
      refine ⟨some (behind.map fun c => c.toNat - '0'.toNat), fun rest ends => ?_⟩
      have read := someDigits_append digits (endsDigits_exponent exponentPart ends)
      rw [List.cons_append, fractionDigits, read]
      rfl
  | none =>
      refine ⟨none, fun rest ends => ?_⟩
      rw [List.nil_append, fractionDigits]
      rintro behind starts
      cases exponentPart with
      | none =>
          rw [List.nil_append] at starts
          subst starts
          exact ends.2.1 rfl
      | signed => cases starts

theorem exponentPart_append (part : IsExponent text) :
    ∃ exponent : Option Int, ∀ rest, Ends rest → exponentPart (text ++ rest) = .ok (exponent, rest) := by
  cases part with
  | none =>
      refine ⟨none, fun rest ends => ?_⟩
      cases rest with
      | nil => rfl
      | cons c rest => exact if_neg (not_or.mpr ends.2.2)
  | @signed sign behind signs digits =>
      let value : Int := natOfDigits (behind.map fun c => c.toNat - '0'.toNat)
      obtain rfl | rfl := signs
      · refine ⟨some (-value), fun rest ends => ?_⟩
        have read := someDigits_append digits ends.endsDigits
        rw [List.cons_append, List.cons_append, exponentPart, if_pos (.inl rfl), read]
        rfl
      · refine ⟨some value, fun rest ends => ?_⟩
        have read := someDigits_append digits ends.endsDigits
        rw [List.cons_append, List.cons_append, exponentPart, if_pos (.inl rfl), read]
        rfl

theorem numeral_append (unsigned : IsUnsigned text) :
    ∃ outcome : Except Fault Numeral, ∀ rest, Ends rest →
      numeral (text ++ rest) = outcome.map fun numeral => (numeral, rest) := by
  obtain ⟨whole, fraction, exponent, digits, fractionPart, exponentPart, rfl⟩ := unsigned.parts
  obtain ⟨outcome, readWhole⟩ := wholeDigits_append digits
  obtain ⟨fractionValue, readFraction⟩ := fractionDigits_append fractionPart exponentPart
  obtain ⟨exponentValue, readExponent⟩ := exponentPart_append exponentPart
  refine ⟨outcome.map fun digits => ⟨digits, fractionValue, exponentValue⟩, fun rest ends => ?_⟩
  rw [List.append_assoc, List.append_assoc, numeral,
    readWhole _ (endsDigits_fraction fractionPart exponentPart ends)]
  cases outcome with
  | error fault => rfl
  | ok digits =>
      simp only [Except.map, bind, Except.bind, readFraction rest ends, readExponent rest ends]

theorem numberBody_append (unsigned : IsUnsigned text) (negative : Bool) :
    ∃ outcome : Except Fault Number, ∀ rest, Ends rest →
      numberBody negative (text ++ rest) = outcome.map fun value => (value, rest) := by
  obtain ⟨outcome, read⟩ := numeral_append unsigned
  cases outcome with
  | error fault =>
      refine ⟨.error fault, fun rest ends => ?_⟩
      rw [numberBody, read rest ends]
      rfl
  | ok numeral =>
      cases known : numberOf? negative numeral with
      | none =>
          refine ⟨.error .malformed, fun rest ends => ?_⟩
          rw [numberBody, read rest ends]
          simp only [Except.map, bind, Except.bind, known]
      | some value =>
          refine ⟨.ok value, fun rest ends => ?_⟩
          rw [numberBody, read rest ends]
          simp only [Except.map, bind, Except.bind, known]

theorem IsUnsigned.exists_cons (unsigned : IsUnsigned text) :
    ∃ first others, text = first :: others ∧ first.isDigit = true := by
  obtain ⟨whole, fraction, exponent, ⟨filled, digits⟩, -, -, rfl⟩ := unsigned.parts
  obtain ⟨first, others, rfl⟩ := List.exists_cons_of_ne_nil filled
  exact ⟨first, _, rfl, digits first List.mem_cons_self⟩

theorem IsNumeral.exists_cons (numeral : IsNumeral text) :
    ∃ first others, text = first :: others ∧ (first = '-' ∨ first.isDigit = true) := by
  cases numeral with
  | negative unsigned => exact ⟨'-', _, rfl, .inl rfl⟩
  | positive unsigned =>
      obtain ⟨first, others, parted, digit⟩ := unsigned.exists_cons
      exact ⟨first, others, parted, .inr digit⟩

/-- A numeral is read to its end, and what it is read as does not depend on what stands behind it. -/
theorem number?_append (numeral : IsNumeral text) :
    ∃ outcome : Except Fault Number, ∀ rest, Ends rest →
      number? (text ++ rest) = some (outcome.map fun value => (value, rest)) := by
  cases numeral with
  | negative unsigned =>
      obtain ⟨outcome, read⟩ := numberBody_append unsigned true
      exact ⟨outcome, fun rest ends => congrArg some (read rest ends)⟩
  | positive unsigned =>
      obtain ⟨outcome, read⟩ := numberBody_append unsigned false
      obtain ⟨first, others, rfl, digit⟩ := unsigned.exists_cons
      refine ⟨outcome, fun rest ends => ?_⟩
      rw [List.cons_append, number?, if_pos digit, ← List.cons_append, read rest ends]
      rintro rfl
      cases digit

/-! ## Printed numbers -/

theorem isDigits_toDigits (number : Nat) : IsDigits (Nat.toDigits 10 number) :=
  ⟨Nat.toDigits_ne_nil, fun _ => isDigit_of_mem_toDigits⟩

theorem isDigits_append_left (digits : IsDigits text) (others : ∀ c ∈ rest, c.isDigit = true) :
    IsDigits (text ++ rest) :=
  ⟨List.append_ne_nil_of_left_ne_nil digits.1 rest, List.forall_mem_append.mpr ⟨digits.2, others⟩⟩

theorem isDigits_append_right (others : ∀ c ∈ text, c.isDigit = true) (digits : IsDigits rest) :
    IsDigits (text ++ rest) :=
  ⟨List.append_ne_nil_of_right_ne_nil text digits.1, List.forall_mem_append.mpr ⟨others, digits.2⟩⟩

theorem isDigit_of_mem_zeros {count : Nat} {c : Char} (member : c ∈ List.replicate count '0') :
    c.isDigit = true := by
  rw [List.eq_of_mem_replicate member]
  rfl

theorem isDigits_zero : IsDigits ['0'] := isDigits_toDigits 0

theorem isUnsigned_append (digits : IsDigits text) (fraction : IsFraction rest) :
    IsUnsigned (text ++ rest) :=
  ⟨text, rest, [], digits, fraction, .none, by rw [List.append_nil]⟩

theorem isFraction_mark (marked : Bool) : IsFraction (if marked then ['.', '0'] else []) := by
  cases marked with
  | false => exact .none
  | true => exact .point isDigits_zero

theorem isUnsigned_positionalText (style : DecimalStyle) (decimal : Decimal) :
    IsUnsigned (style.positionalText decimal) := by
  have digits : IsDigits decimal.digitChars := isDigits_toDigits decimal.digits
  unfold DecimalStyle.positionalText
  dsimp only
  split
  · have whole : IsDigits (decimal.digitChars ++ List.replicate decimal.exponent.toNat '0') :=
      isDigits_append_left digits fun _ => isDigit_of_mem_zeros
    exact isUnsigned_append whole (isFraction_mark style.markWhole)
  · rename_i shifted
    split
    · rename_i within
      have front : IsDigits (decimal.digitChars.take
          (decimal.digitChars.length - (-decimal.exponent).toNat)) := by
        refine ⟨List.ne_nil_of_length_pos ?_, fun c member => digits.2 c (List.mem_of_mem_take member)⟩
        rw [List.length_take]
        omega
      have behind : IsDigits (decimal.digitChars.drop
          (decimal.digitChars.length - (-decimal.exponent).toNat)) := by
        refine ⟨List.ne_nil_of_length_pos ?_, fun c member => digits.2 c (List.mem_of_mem_drop member)⟩
        rw [List.length_drop]
        omega
      exact isUnsigned_append front (.point behind)
    · have fraction : IsDigits (List.replicate ((-decimal.exponent).toNat - decimal.digitChars.length)
          '0' ++ decimal.digitChars) := isDigits_append_right (fun _ => isDigit_of_mem_zeros) digits
      have whole := isUnsigned_append isDigits_zero (.point fraction)
      rwa [List.singleton_append, ← List.cons_append, ← List.cons_append] at whole

theorem isUnsigned_scientificText (decimal : Decimal) :
    IsUnsigned (DecimalStyle.scientificText decimal) := by
  have digits : IsDigits decimal.digitChars := isDigits_toDigits decimal.digits
  have front : IsDigits (decimal.digitChars.take 1) := by
    refine ⟨?_, fun c member => digits.2 c (List.mem_of_mem_take member)⟩
    obtain ⟨first, others, parted⟩ := List.exists_cons_of_ne_nil digits.1
    rw [parted]
    exact List.cons_ne_nil _ _
  have fraction : IsFraction
      (if 1 < decimal.digitChars.length then '.' :: decimal.digitChars.drop 1 else []) := by
    split
    · rename_i several
      refine .point ⟨List.ne_nil_of_length_pos ?_, fun c member =>
        digits.2 c (List.mem_of_mem_drop member)⟩
      rw [List.length_drop]
      omega
    · exact .none
  have signs : (if decimal.leadingExponent < 0 then '-' else '+') = '-' ∨
      (if decimal.leadingExponent < 0 then '-' else '+') = '+' := by
    split
    · exact .inl rfl
    · exact .inr rfl
  refine ⟨_, _, _, front, fraction, .signed signs (isDigits_toDigits decimal.leadingExponent.natAbs), ?_⟩
  simp [DecimalStyle.scientificText]

theorem isNumeral_signed (negative : Bool) (unsigned : IsUnsigned text) :
    IsNumeral ((if negative then ['-'] else []) ++ text) := by
  cases negative with
  | false => exact .positive unsigned
  | true => exact .negative unsigned

theorem isNumeral_text (style : DecimalStyle) (value : Binary64) : IsNumeral (style.text value) := by
  unfold DecimalStyle.text
  dsimp only
  split
  · exact isNumeral_signed _ (isUnsigned_append isDigits_zero (isFraction_mark style.markWhole))
  · split
    · exact isNumeral_signed _ (isUnsigned_positionalText style value.shortest)
    · exact isNumeral_signed _ (isUnsigned_scientificText value.shortest)

/-- Every number is printed as a numeral. -/
theorem isNumeral_numberChars (value : Number) : IsNumeral (numberChars value) := by
  cases value with
  | double value finite => exact isNumeral_text numberStyle value
  | integer value bounded =>
      have unsigned : IsUnsigned (Nat.toDigits 10 value.natAbs) := by
        rw [← List.append_nil (Nat.toDigits 10 value.natAbs)]
        exact isUnsigned_append (isDigits_toDigits value.natAbs) .none
      rw [numberChars, integerChars]
      split
      · exact .negative unsigned
      · exact .positive unsigned

end Json

end DocumentSearch
