import DocumentSearch.Text.Percent
import Mathlib.Data.List.Basic

/-!
# Encoded texts

Decoding takes an encoded text back to the bytes of the text, provided that the percent sign itself
is encoded, and different texts have different bytes.  What is encoded does not occur in the encoded
text, unless it is the percent sign or a digit.
-/

namespace DocumentSearch

namespace Utf8

theorem encode_injective : Function.Injective encode := by
  intro left right same
  have sameBytes : left.utf8Encode = right.utf8Encode := congrArg List.toByteArray same
  have sameChars := congrArg ByteArray.utf8Decode? sameBytes
  rw [List.utf8Decode?_utf8Encode, List.utf8Decode?_utf8Encode] at sameChars
  simpa using sameChars

theorem encode_cons (c : Char) (text : List Char) :
    encode (c :: text) = String.utf8EncodeChar c ++ encode text := rfl

theorem encode_eq_nil_iff (text : List Char) : encode text = [] ↔ text = [] := by
  constructor
  · intro empty
    exact encode_injective empty
  · rintro rfl
    rfl

end Utf8

namespace Percent

theorem hexValue?_hexDigit {digit : Nat} (small : digit < 16) :
    hexValue? (hexDigit digit) = some digit := by
  have all : ∀ digit : Fin 16, hexValue? (hexDigit digit) = some digit.val := by decide
  exact all ⟨digit, small⟩

theorem decode_encodeByte_append (byte : UInt8) (rest : List Char) :
    decode (encodeByte byte ++ rest) = byte :: decode rest := by
  have bound : byte.toNat < 256 := byte.toNat_lt
  have high : byte.toNat / 16 < 16 := by omega
  have low : byte.toNat % 16 < 16 := by omega
  change decode ('%' :: hexDigit (byte.toNat / 16) :: hexDigit (byte.toNat % 16) :: rest) = _
  rw [decode, hexValue?_hexDigit high, hexValue?_hexDigit low]
  dsimp only
  rw [Nat.div_add_mod, UInt8.ofNat_toNat]

theorem decode_encodeBytes_append (bytes : List UInt8) (rest : List Char) :
    decode (bytes.flatMap encodeByte ++ rest) = bytes ++ decode rest := by
  induction bytes with
  | nil => rfl
  | cons byte bytes ih =>
      rw [List.flatMap_cons, List.append_assoc, decode_encodeByte_append, ih]
      rfl

theorem decode_cons_of_ne {c : Char} (literal : c ≠ '%') (rest : List Char) :
    decode (c :: rest) = String.utf8EncodeChar c ++ decode rest := by
  rw [decode]
  intro high low behind percent
  exact absurd percent literal

variable {reserved : Char → Bool}

theorem decode_encodeChar_append (percent : reserved '%' = true) (c : Char) (rest : List Char) :
    decode (encodeChar reserved c ++ rest) = String.utf8EncodeChar c ++ decode rest := by
  unfold encodeChar
  split
  · exact decode_encodeBytes_append (String.utf8EncodeChar c) rest
  · rename_i free
    have literal : c ≠ '%' := by
      rintro rfl
      exact free percent
    exact decode_cons_of_ne literal rest

/-- An encoded text decodes to the bytes of the text. -/
theorem decode_encode (percent : reserved '%' = true) (text : List Char) :
    decode (encode reserved text) = Utf8.encode text := by
  induction text with
  | nil => rfl
  | cons c text ih =>
      change decode (encodeChar reserved c ++ encode reserved text) = _
      rw [decode_encodeChar_append percent, ih, Utf8.encode_cons]

/-- A reserved character is not left over when a text is encoded, unless encoding itself writes
it. -/
theorem not_mem_encode {c : Char} (hidden : reserved c = true) (mark : c ≠ '%')
    (noDigit : ∀ digit < 16, c ≠ hexDigit digit) (text : List Char) :
    c ∉ encode reserved text := by
  intro member
  obtain ⟨source, _, inside⟩ := List.mem_flatMap.mp member
  unfold encodeChar at inside
  split at inside
  · obtain ⟨byte, _, written⟩ := List.mem_flatMap.mp inside
    have bound : byte.toNat < 256 := byte.toNat_lt
    simp only [encodeByte, List.mem_cons, List.not_mem_nil, or_false] at written
    rcases written with same | same | same
    · exact mark same
    · exact noDigit _ (by omega) same
    · exact noDigit _ (by omega) same
  · rename_i free
    have same : c = source := List.mem_singleton.mp inside
    exact free (same ▸ hidden)

end Percent

end DocumentSearch
