import DocumentSearch.Http.Host
import DocumentSearch.Proofs.Percent
import Mathlib

/-!
# Words as hosts

A host that is a word of ASCII letters is the domain of these letters in lower case: no table of
characters has anything to say about them, and they spell no address.  Nothing is said about letters
outside ASCII, for which `Domain.ofText?` leaves out normalisation, the rules for text that runs from
right to left, and Punycode in what it writes.
-/

namespace DocumentSearch

/-- The letters of ASCII. -/
def asciiLetters : List Char := ((List.range 0x80).map Char.ofNat).filter Char.isAlpha

/-! ## Letters -/

section Letters

variable {c : Char}

theorem mem_asciiLetters (letter : c.isAlpha = true) : c ∈ asciiLetters := by
  have small : c.toNat < 0x80 := by
    simp [Char.isAlpha, Char.isUpper, Char.isLower, UInt32.le_iff_toNat_le] at letter
    omega
  refine List.mem_filter.mpr ⟨List.mem_map.mpr ⟨c.toNat, List.mem_range.mpr small, ?_⟩, letter⟩
  exact Char.ofNat_toNat c

/-- What all letters of ASCII have in common is found out by looking at each of them. -/
@[elab_as_elim]
theorem of_isAlpha {P : Char → Prop} [DecidablePred P] (letter : c.isAlpha = true)
    (all : asciiLetters.all (fun c => decide (P c)) = true) : P c :=
  of_decide_eq_true (List.all_eq_true.mp all c (mem_asciiLetters letter))

theorem toNat_lt_of_isAlpha (letter : c.isAlpha = true) : c.toNat < 0x80 :=
  of_isAlpha letter (by decide)

theorem isDigit_of_isAlpha (letter : c.isAlpha = true) : c.isDigit = false :=
  of_isAlpha letter (by decide)

theorem eq_of_toLower_eq {other : Char} (same : c.toLower = other)
    (sign : other.isAlpha = false) : c = other := by
  have noLetter : c.isAlpha = false := by
    rw [← Char.isAlpha_toLower_eq_isAlpha, same, sign]
  have noUpper : ¬c.isUpper = true := fun upper => by
    simp [Char.isAlpha, upper] at noLetter
  exact (Char.toLower_eq_of_not_isUpper noUpper).symm.trans same

theorem Percent.ten_le_of_hexValue? (letter : c.isAlpha = true) {digit : Nat}
    (read : hexValue? c = some digit) : 10 ≤ digit := by
  have all : ∀ digit ∈ hexValue? c, 10 ≤ digit := of_isAlpha letter (by decide)
  exact all digit read

namespace DomainCharacter

theorem isIgnored_of_isAlpha (letter : c.isAlpha = true) : isIgnored c = false :=
  of_isAlpha letter (by decide +kernel)

theorem isRefused_of_isAlpha (letter : c.isAlpha = true) : isRefused c = false :=
  of_isAlpha letter (by decide +kernel)

theorem meaning_of_isAlpha (letter : c.isAlpha = true) : meaning c = [c.toLower] :=
  of_isAlpha letter (by decide +kernel)

theorem isMark_of_isAlpha (letter : c.isAlpha = true) : isMark c = false :=
  of_isAlpha letter (by decide +kernel)

theorem isJoiner_of_isAlpha (letter : c.isAlpha = true) : isJoiner c = false :=
  of_isAlpha letter (by decide +kernel)

end DomainCharacter

end Letters

/-! ## Bytes -/

namespace Utf8

theorem utf8EncodeChar_of_lt {c : Char} (ascii : c.toNat < 0x80) :
    String.utf8EncodeChar c = [UInt8.ofNat c.toNat] := by
  have small : c.val.toNat ≤ 0x7F := Nat.le_of_lt_succ ascii
  simp only [String.utf8EncodeChar, if_pos small]
  rfl

theorem decode?_encode {text : List Char} (ascii : ∀ c ∈ text, c.toNat < 0x80) :
    decode? (encode text) = some text := by
  have items : decode (encode text) = text.map Item.char := by
    induction text with
    | nil => rfl
    | cons c rest ih =>
        obtain ⟨here, there⟩ := List.forall_mem_cons.mp ascii
        have value : (UInt8.ofNat c.toNat).toNat = c.toNat := by
          rw [UInt8.toNat_ofNat']
          omega
        have first : step .ready (UInt8.ofNat c.toNat).toNat = ([.char c], .ready) := by
          rw [value, step, start, if_pos here, Char.ofNat_toNat]
        rw [encode_cons, utf8EncodeChar_of_lt here, List.map_cons, ← ih there]
        change decodeFrom .ready (UInt8.ofNat c.toNat :: encode rest) = _
        rw [decodeFrom, first]
        rfl
  rw [decode?, items, List.mapM_map]
  exact List.mapM_pure.trans (congrArg some (List.map_id text))

end Utf8

theorem Percent.decode_of_not_mem {text : List Char} (free : '%' ∉ text) :
    decode text = Utf8.encode text := by
  induction text with
  | nil => rfl
  | cons c rest ih =>
      rw [List.mem_cons, not_or] at free
      rw [decode_cons_of_ne (Ne.symm free.1), ih free.2, Utf8.encode_cons]

/-! ## Words -/

section Words

variable {word : List Char}

theorem Domain.meaning?_of_isAlpha (letters : ∀ c ∈ word, c.isAlpha = true) :
    Domain.meaning? word = some (word.map Char.toLower) := by
  have counted : (word.filter fun c => !DomainCharacter.isIgnored c) = word :=
    List.filter_eq_self.mpr fun c member => by
      rw [DomainCharacter.isIgnored_of_isAlpha (letters c member)]
      rfl
  have held : word.any DomainCharacter.isRefused = false :=
    List.any_eq_false.mpr fun c member => by
      rw [DomainCharacter.isRefused_of_isAlpha (letters c member)]
      exact Bool.false_ne_true
  have lower : word.flatMap DomainCharacter.meaning = word.map Char.toLower := by
    rw [List.map_eq_flatMap]
    exact List.flatMap_congr fun c member => DomainCharacter.meaning_of_isAlpha (letters c member)
  simp only [Domain.meaning?, counted, held, lower, Bool.false_eq_true, if_false]

theorem Domain.joinersFit_of_isAlpha (letters : ∀ c ∈ word, c.isAlpha = true) (before : Option Char) :
    Domain.joinersFit before word = true := by
  induction word generalizing before with
  | nil => rfl
  | cons c rest ih =>
      obtain ⟨here, there⟩ := List.forall_mem_cons.mp letters
      rw [Domain.joinersFit, DomainCharacter.isJoiner_of_isAlpha here, ih there]
      rfl

theorem Domain.isLabel_of_isAlpha (letters : ∀ c ∈ word, c.isAlpha = true) :
    Domain.isLabel word = true := by
  have formed : Domain.isWellFormed word = true := by
    cases word with
    | nil => rfl
    | cons c rest =>
        have first := DomainCharacter.isMark_of_isAlpha (letters c List.mem_cons_self)
        simp only [Domain.isWellFormed, Domain.joinersFit_of_isAlpha letters, List.head?_cons,
          Option.any_some, first, Bool.not_false, Bool.and_self]
  unfold Domain.isLabel
  split
  · exact absurd (letters '-' (by simp)) (by decide)
  · exact formed

theorem isAlpha_of_mem_map_toLower (letters : ∀ c ∈ word, c.isAlpha = true) :
    ∀ c ∈ word.map Char.toLower, c.isAlpha = true :=
  List.forall_mem_map.mpr fun c member =>
    (Char.isAlpha_toLower_eq_isAlpha c).trans (letters c member)

theorem split_of_isAlpha (letters : ∀ c ∈ word, c.isAlpha = true) : Text.split '.' word = [word] :=
  Text.split_of_not_mem fun member => absurd (letters '.' member) (by decide)

theorem Domain.ofText?_of_isAlpha (letters : ∀ c ∈ word, c.isAlpha = true) :
    Domain.ofText? word = some (word.map Char.toLower) := by
  have lower := isAlpha_of_mem_map_toLower letters
  rw [Domain.ofText?, Domain.meaning?_of_isAlpha letters, Option.bind_some, split_of_isAlpha lower,
    List.all_cons, Domain.isLabel_of_isAlpha lower]
  rfl

namespace Host

theorem digits?_of_isAlpha (named : word ≠ []) (letters : ∀ c ∈ word, c.isAlpha = true) :
    digits? 10 word = none := by
  obtain ⟨c, rest, rfl⟩ := List.exists_cons_of_ne_nil named
  rw [digits?, List.foldl_cons]
  split
  · rename_i read
    have large := Percent.ten_le_of_hexValue? (letters c List.mem_cons_self) read
    rw [if_neg (Nat.not_lt.mpr large)]
    exact List.foldl_fixed' (fun _ => rfl) rest
  · exact List.foldl_fixed' (fun _ => rfl) rest

theorem ipv4Part?_of_isAlpha (named : word ≠ []) (letters : ∀ c ∈ word, c.isAlpha = true) :
    ipv4Part? word = none := by
  unfold ipv4Part?
  split
  · rfl
  · exact absurd (letters '0' List.mem_cons_self) (by decide)
  · exact absurd (letters '0' List.mem_cons_self) (by decide)
  · exact absurd (letters '0' List.mem_cons_self) (by decide)
  · exact digits?_of_isAlpha named letters

theorem endsInNumber_of_isAlpha (named : word ≠ []) (letters : ∀ c ∈ word, c.isAlpha = true) :
    endsInNumber word = false := by
  have single : labels word = [word] := by
    rw [labels, split_of_isAlpha letters]
    exact if_neg fun both => absurd both.2 (Nat.lt_irrefl 1)
  have digitFree : word.all Char.isDigit = false := by
    obtain ⟨c, rest, rfl⟩ := List.exists_cons_of_ne_nil named
    rw [List.all_cons, isDigit_of_isAlpha (letters c List.mem_cons_self), Bool.false_and]
  simp only [endsInNumber, single, List.getLast?_singleton, digitFree,
    ipv4Part?_of_isAlpha named letters, Option.isSome_none, Bool.and_false, Bool.or_false]

/-- A word of letters is the domain of these letters in lower case. -/
theorem ofText_of_isAlpha (named : word ≠ []) (letters : ∀ c ∈ word, c.isAlpha = true) :
    ofText word = .ok (.domain (word.map Char.toLower)) := by
  have percentFree : '%' ∉ word := fun member => absurd (letters '%' member) (by decide)
  have decoded : Utf8.decode? (Percent.decode word) = some word := by
    rw [Percent.decode_of_not_mem percentFree]
    exact Utf8.decode?_encode fun c member => toNat_lt_of_isAlpha (letters c member)
  have domain : ofDecoded word = .ok (.domain (word.map Char.toLower)) := by
    have lower := isAlpha_of_mem_map_toLower letters
    have lowerNamed : word.map Char.toLower ≠ [] := mt List.map_eq_nil_iff.mp named
    rw [ofDecoded, Domain.ofText?_of_isAlpha letters]
    split
    · simp_all
    · simp_all
    · rename_i name _ same
      cases same
      rw [endsInNumber_of_isAlpha lowerNamed lower]
      rfl
  unfold ofText
  split
  · exact absurd rfl named
  · exact absurd (letters '[' List.mem_cons_self) (by decide)
  · rw [decoded]
    exact domain

end Host

end Words

end DocumentSearch
