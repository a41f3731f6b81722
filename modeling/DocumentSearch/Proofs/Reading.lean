import DocumentSearch.Proofs.Numerals
import Mathlib.Data.List.Flatten

/-!
# Printed parts are read to their end

What a reader takes off the front of a text does not depend on what stands behind, unless that could
continue a number.  So words, numbers and string literals are read in the same way wherever they are
printed.  Integers and strings come back as they were; a double comes back as the number that its
numeral is read as.
-/

namespace DocumentSearch

namespace Json

variable {α : Type} {text rest : List Char}

/-- Whether a text holds nothing but blanks. -/
def IsBlankText (text : List Char) : Prop := ∀ c ∈ text, isBlank c = true

/-- Whether a reader takes a text off the front, from behind any blanks, or refuses it, with the same
outcome whatever stands behind. -/
def Takes (read : Reader α) (text : List Char) (outcome : Except Fault α) : Prop :=
  ∀ blanks rest, IsBlankText blanks → Ends rest →
    read (blanks ++ (text ++ rest)) = outcome.map fun value => (value, rest)

theorem Takes.apply {read : Reader α} {outcome : Except Fault α} (taken : Takes read text outcome)
    (ends : Ends rest) : read (text ++ rest) = outcome.map fun value => (value, rest) :=
  taken [] rest (fun _ member => absurd member List.not_mem_nil) ends

/-! ## Blanks -/

theorem isBlankText_nil : IsBlankText [] := fun _ member => absurd member List.not_mem_nil

theorem skipBlanks_append {blanks : List Char} (blank : IsBlankText blanks) (text : List Char) :
    skipBlanks (blanks ++ text) = skipBlanks text :=
  List.dropWhile_append_of_pos blank

theorem skipBlanks_cons {c : Char} (visible : isBlank c = false) (text : List Char) :
    skipBlanks (c :: text) = c :: text :=
  List.dropWhile_cons_of_neg (by simp [visible])

theorem skipBlanks_append_cons {blanks : List Char} (blank : IsBlankText blanks) {c : Char}
    (visible : isBlank c = false) (text : List Char) :
    skipBlanks (blanks ++ c :: text) = c :: text := by
  rw [skipBlanks_append blank, skipBlanks_cons visible]

theorem ends_of_isBlank {c : Char} (blank : isBlank c = true) (text : List Char) :
    Ends (c :: text) := by
  simp only [isBlank, Bool.or_eq_true, decide_eq_true_eq] at blank
  obtain ((rfl | rfl) | rfl) | rfl := blank <;> exact ⟨rfl, by decide, by decide, by decide⟩

theorem ends_mark {c : Char} (mark : c = ',' ∨ c = ']' ∨ c = '}') (text : List Char) :
    Ends (c :: text) := by
  obtain rfl | rfl | rfl := mark <;> exact ⟨rfl, by decide, by decide, by decide⟩

theorem ends_append {blanks : List Char} (blank : IsBlankText blanks) (ends : Ends text) :
    Ends (blanks ++ text) := by
  cases blanks with
  | nil => exact ends
  | cons c blanks => exact ends_of_isBlank (blank c List.mem_cons_self) _

/-! ## Numbers -/

end Json

namespace Number

open Json

/-- What a number is read as from its numeral. -/
def reread (value : Number) : Except Fault Number :=
  match number? (numberChars value) with
  | some result => result.map Prod.fst
  | none => .error .malformed

theorem number?_numberChars (value : Number) {rest : List Char} (ends : Ends rest) :
    number? (numberChars value ++ rest) = some (value.reread.map fun read => (read, rest)) := by
  obtain ⟨outcome, read⟩ := number?_append (isNumeral_numberChars value)
  have alone := read [] trivial
  rw [List.append_nil] at alone
  have same : value.reread = outcome := by
    rw [reread, alone]
    cases outcome <;> rfl
  rw [read rest ends, same]

theorem reread_integer {value : Int}
    (bounded : -9223372036854775808 ≤ value ∧ value < 18446744073709551616) :
    (integer value bounded).reread = .ok (integer value bounded) := by
  rw [reread, numberChars, number?_integerChars bounded]
  rfl

/-- Whether a number is read back from its numeral. -/
def IsReadBack (value : Number) : Prop := value.reread.toOption = some value

instance (value : Number) : Decidable value.IsReadBack := inferInstanceAs (Decidable (_ = _))

theorem isReadBack_iff {value : Number} : value.IsReadBack ↔ value.reread = .ok value := by
  unfold IsReadBack
  cases value.reread with
  | error fault => simp [Except.toOption]
  | ok read => simp [Except.toOption]

theorem isReadBack_integer {value : Int}
    (bounded : -9223372036854775808 ≤ value ∧ value < 18446744073709551616) :
    (integer value bounded).IsReadBack :=
  isReadBack_iff.mpr (reread_integer bounded)

end Number

namespace Json

/-! ## Strings -/

theorem hexValue?_hexDigit {digit : Nat} (small : digit < 16) :
    hexValue? (hexDigit digit) = some digit := by
  have all : ∀ digit : Fin 16, hexValue? (hexDigit digit) = some digit.val := by decide
  exact all ⟨digit, small⟩

theorem stringFrom_simpleEscape {c meant : Char} (stands : simpleEscape? c = some meant)
    (plain : c ≠ 'u') (read text : List Char) :
    stringFrom false .plain (some read) ('\\' :: c :: text) =
      stringFrom false .plain (some (meant :: read)) text := by
  rw [stringFrom, if_neg (by decide), if_pos rfl, stringFrom, if_neg plain, stands]
  rfl

theorem lacksFourBytes_cons (first second third fourth : Char) (text : List Char) :
    lacksFourBytes (first :: second :: third :: fourth :: text) = false := by
  have sizes := And.intro first.utf8Size_pos (And.intro second.utf8Size_pos
    (And.intro third.utf8Size_pos fourth.utf8Size_pos))
  refine decide_eq_false ?_
  simp only [List.take_succ_cons, List.take_zero, List.foldl_cons, List.foldl_nil]
  omega

/-- A control character is written by four digits, of which the first two are zero. -/
theorem stringFrom_fourDigits {c : Char} (control : c.toNat < 32) (read text : List Char) :
    stringFrom false .plain (some read) ('\\' :: 'u' :: '0' :: '0' :: hexDigit (c.toNat / 16) ::
        hexDigit (c.toNat % 16) :: text) =
      stringFrom false .plain (some (c :: read)) text := by
  have zero : hexValue? '0' = some 0 := by decide
  have high := hexValue?_hexDigit (by omega : c.toNat / 16 < 16)
  have low := hexValue?_hexDigit (by omega : c.toNat % 16 < 16)
  have unit : (c.toNat / 16) * 16 + c.toNat % 16 = c.toNat := Nat.div_add_mod' c.toNat 16
  have finished : finishDigits false none c.toNat = .ok (.plain, [c]) := by
    have leading : isLeadingSurrogate c.toNat = false := by
      simp only [isLeadingSurrogate, decide_eq_false_iff_not]
      omega
    have trailing : isTrailingSurrogate c.toNat = false := by
      simp only [isTrailingSurrogate, decide_eq_false_iff_not]
      omega
    simp [finishDigits, leading, trailing]
  rw [stringFrom, if_neg (by decide), if_pos rfl, stringFrom, if_pos rfl, lacksFourBytes_cons,
    if_neg Bool.false_ne_true]
  simp [stringFrom, zero, high, low, unit, finished]

theorem stringFrom_escapeChar (c : Char) (read text : List Char) :
    stringFrom false .plain (some read) (escapeChar c ++ text) =
      stringFrom false .plain (some (c :: read)) text := by
  unfold escapeChar
  split_ifs with quotation backslash backspace feed line start tab control
  · subst quotation
    exact stringFrom_simpleEscape rfl (by decide) read text
  · subst backslash
    exact stringFrom_simpleEscape rfl (by decide) read text
  · subst backspace
    exact stringFrom_simpleEscape rfl (by decide) read text
  · subst feed
    exact stringFrom_simpleEscape rfl (by decide) read text
  · subst line
    exact stringFrom_simpleEscape rfl (by decide) read text
  · subst start
    exact stringFrom_simpleEscape rfl (by decide) read text
  · subst tab
    exact stringFrom_simpleEscape rfl (by decide) read text
  · exact stringFrom_fourDigits control read text
  · have noMark : c ≠ badByte := by
      rintro rfl
      exact control (by decide)
    have visible : ¬c < ' ' := by
      rw [Char.lt_def, UInt32.lt_iff_toNat_lt]
      exact control
    rw [List.singleton_append, stringFrom, if_neg quotation, if_neg backslash, if_neg noMark,
      if_neg visible]
    rfl

/-- A string literal is read back. -/
theorem stringBody_flatMap (text rest : List Char) :
    stringBody (text.flatMap escapeChar ++ '"' :: rest) = .ok (String.ofList text, rest) := by
  have body (read : List Char) :
      stringFrom false .plain (some read) (text.flatMap escapeChar ++ '"' :: rest) =
        .ok (String.ofList (read.reverse ++ text), rest) := by
    induction text generalizing read with
    | nil => rw [List.append_nil]; rfl
    | cons c text ih =>
        rw [List.flatMap_cons, List.append_assoc, stringFrom_escapeChar, ih, List.reverse_cons,
          List.append_assoc]
        rfl
  exact body []

/-! ## Scalar values -/

section

variable {inner : Option (Reader Json)}

theorem valueWith_append {blanks : List Char} (blank : IsBlankText blanks) (text : List Char) :
    valueWith inner (blanks ++ text) = valueWith inner text := by
  rw [valueWith, valueWith, skipBlanks_append blank]

theorem takes_null : Takes (valueWith inner) (compact .null) (.ok .null) := by
  intro blanks rest blank _
  rw [valueWith_append blank]
  rfl

theorem takes_bool (value : Bool) :
    Takes (valueWith inner) (compact (.bool value)) (.ok (.bool value)) := by
  intro blanks rest blank _
  rw [valueWith_append blank]
  cases value <;> rfl

theorem takes_number (value : Number) :
    Takes (valueWith inner) (compact (.number value)) (value.reread.map .number) := by
  intro blanks rest blank ends
  have read := value.number?_numberChars ends
  obtain ⟨first, others, parted, starts⟩ := (isNumeral_numberChars value).exists_cons
  rw [valueWith_append blank, compact, parted]
  rw [parted] at read
  rw [List.cons_append] at read ⊢
  rw [valueWith_of_number? starts read]
  cases value.reread <;> rfl

theorem takes_string (value : String) :
    Takes (valueWith inner) (compact (.string value)) (.ok (.string value)) := by
  intro blanks rest blank _
  have body := stringBody_flatMap value.toList rest
  rw [String.ofList_toList] at body
  have read : valueWith inner ('"' :: (value.toList.flatMap escapeChar ++ '"' :: rest)) =
      stringBody (value.toList.flatMap escapeChar ++ '"' :: rest) >>= fun taken =>
        .ok (.string taken.1, taken.2) := rfl
  rw [valueWith_append blank, compact, quote, List.cons_append, List.cons_append, List.append_assoc,
    List.singleton_append, read, body]
  rfl

end

end Json

end DocumentSearch
