import DocumentSearch.Json.Printer
import Mathlib.Data.List.Basic

/-!
# Printed values hold no control character

Every control character is escaped inside a string, in keys and values at any depth, and nothing
else that the compact form is made of is a control character.  So a printed value stays on one line.
-/

namespace DocumentSearch

namespace Text

/-- Whether a text holds no control character, that is none below the space. -/
def ControlFree (text : List Char) : Prop := ∀ c ∈ text, 32 ≤ c.toNat

@[simp] theorem controlFree_nil : ControlFree [] := fun _ member => absurd member List.not_mem_nil

@[simp] theorem controlFree_cons (c : Char) (text : List Char) :
    ControlFree (c :: text) ↔ 32 ≤ c.toNat ∧ ControlFree text := List.forall_mem_cons

@[simp] theorem controlFree_append (left right : List Char) :
    ControlFree (left ++ right) ↔ ControlFree left ∧ ControlFree right := List.forall_mem_append

theorem ControlFree.take {text : List Char} (free : ControlFree text) (count : Nat) :
    ControlFree (text.take count) := fun c member => free c (List.mem_of_mem_take member)

theorem ControlFree.drop {text : List Char} (free : ControlFree text) (count : Nat) :
    ControlFree (text.drop count) := fun c member => free c (List.mem_of_mem_drop member)

theorem controlFree_flatMap {α : Type} {items : List α} {write : α → List Char}
    (free : ∀ item ∈ items, ControlFree (write item)) : ControlFree (items.flatMap write) := by
  intro c member
  obtain ⟨item, listed, written⟩ := List.mem_flatMap.mp member
  exact free item listed c written

theorem ControlFree.newline_not_mem {text : List Char} (free : ControlFree text) : '\n' ∉ text :=
  fun member => absurd (free '\n' member) (by decide)

end Text

open Text

theorem controlFree_toDigits (value : Nat) : ControlFree (Nat.toDigits 10 value) := by
  intro c member
  have digit := Nat.isDigit_of_mem_toDigits (by decide) (by decide) member
  have range : 48 ≤ c.toNat ∧ c.toNat ≤ 57 := by
    simpa [Char.isDigit, UInt32.le_iff_toNat_le] using digit
  omega

theorem controlFree_replicate_zero (count : Nat) : ControlFree (List.replicate count '0') := by
  intro c member
  rw [List.eq_of_mem_replicate member]
  decide

namespace DecimalStyle

theorem controlFree_positionalText (style : DecimalStyle) (decimal : Decimal) :
    ControlFree (style.positionalText decimal) := by
  have digits : ControlFree decimal.digitChars := controlFree_toDigits decimal.digits
  unfold positionalText
  dsimp only
  split
  · have mark : ControlFree (if style.markWhole then ['.', '0'] else []) := by
      split <;> simp
    simp [digits, controlFree_replicate_zero, mark]
  · split
    · simp [digits.take, digits.drop]
    · simp [digits, controlFree_replicate_zero]

theorem controlFree_scientificText (decimal : Decimal) : ControlFree (scientificText decimal) := by
  have digits : ControlFree decimal.digitChars := controlFree_toDigits decimal.digits
  have fraction : ControlFree
      (if 1 < decimal.digitChars.length then '.' :: decimal.digitChars.drop 1 else []) := by
    split
    · exact (controlFree_cons _ _).mpr ⟨by decide, digits.drop 1⟩
    · exact controlFree_nil
  have sign : ControlFree ['e', if decimal.leadingExponent < 0 then '-' else '+'] := by
    split <;> simp
  unfold scientificText
  simp only [controlFree_append]
  exact ⟨⟨⟨digits.take 1, fraction⟩, sign⟩, controlFree_toDigits _⟩

theorem controlFree_text (style : DecimalStyle) (value : Binary64) :
    ControlFree (style.text value) := by
  have sign : ControlFree (if value.isNegative then ['-'] else []) := by
    split <;> simp
  have mark : ControlFree (if style.markWhole then ['.', '0'] else []) := by
    split <;> simp
  unfold text
  dsimp only
  split
  · simp [sign, mark]
  · split
    · simp [sign, controlFree_positionalText]
    · simp [sign, controlFree_scientificText]

end DecimalStyle

namespace Json

theorem controlFree_integerChars (value : Int) : ControlFree (integerChars value) := by
  unfold integerChars
  split
  · simp [controlFree_toDigits]
  · exact controlFree_toDigits _

theorem controlFree_numberChars (value : Number) : ControlFree (numberChars value) := by
  cases value with
  | integer value bounded => exact controlFree_integerChars value
  | double value finite => exact DecimalStyle.controlFree_text numberStyle value

theorem le_toNat_hexDigit {digit : Nat} (small : digit < 16) : 32 ≤ (hexDigit digit).toNat := by
  have all : ∀ digit : Fin 16, 32 ≤ (hexDigit digit).toNat := by decide
  exact all ⟨digit, small⟩

theorem controlFree_escapeChar (c : Char) : ControlFree (escapeChar c) := by
  unfold escapeChar
  by_cases control : c.toNat < 32
  · have high := le_toNat_hexDigit (by omega : c.toNat / 16 < 16)
    have low := le_toNat_hexDigit (by omega : c.toNat % 16 < 16)
    split_ifs <;> simp [high, low]
  · have printable : 32 ≤ c.toNat := by omega
    split_ifs <;> simp [printable]

theorem controlFree_quote (text : List Char) : ControlFree (quote text) := by
  have escaped : ControlFree (text.flatMap escapeChar) :=
    controlFree_flatMap fun c _ => controlFree_escapeChar c
  simp [quote, escaped]

mutual

/-- The compact form of a value holds no control character, whatever its strings hold. -/
theorem controlFree_compact : ∀ json : Json, ControlFree (compact json)
  | .null | .bool true | .bool false => by simp [compact]
  | .number value => controlFree_numberChars value
  | .string value => controlFree_quote value.toList
  | .array [] => by simp [compact]
  | .array (item :: rest) => by
      simp [compact, controlFree_compact item, controlFree_compactItems rest]
  | .object [] => by simp [compact]
  | .object ((key, value) :: rest) => by
      simp [compact, controlFree_quote, controlFree_compact value, controlFree_compactEntries rest]

theorem controlFree_compactItems : ∀ items : List Json, ControlFree (compactItems items)
  | [] => controlFree_nil
  | item :: rest => by
      simp [compactItems, controlFree_compact item, controlFree_compactItems rest]

theorem controlFree_compactEntries :
    ∀ entries : List (String × Json), ControlFree (compactEntries entries)
  | [] => controlFree_nil
  | (key, value) :: rest => by
      simp [compactEntries, controlFree_quote, controlFree_compact value,
        controlFree_compactEntries rest]

end

end Json

end DocumentSearch
