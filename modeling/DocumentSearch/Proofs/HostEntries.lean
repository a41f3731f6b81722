import DocumentSearch.Http.Base
import DocumentSearch.Proofs.Domains
import Mathlib.Data.List.DropRight

/-!
# Entries for hosts

An entry gives a host with a scheme in front or without one, and letters of a scheme may be written in
either case.  The URL of an entry begins with the scheme that it gives, unless the entry is misread:
slashes are taken from its end before the scheme is looked for, and only a scheme in lower case is
found.  A misread entry is put behind a second scheme.
-/

namespace DocumentSearch

namespace Text

variable {test : Char → Bool}

theorem dropEndWhile_append_cons {last : Char} (stays : test last = false) (front rest : List Char) :
    dropEndWhile test (front ++ last :: rest) = front ++ last :: dropEndWhile test rest := by
  simp only [dropEndWhile, List.reverse_append, List.reverse_cons, List.append_assoc,
    List.dropWhile_append, List.isEmpty_iff]
  split
  · rename_i all
    simp [all, stays]
  · simp

theorem dropEndWhile_append_of_ne_nil {rest : List Char} (left : dropEndWhile test rest ≠ [])
    (front : List Char) : dropEndWhile test (front ++ rest) = front ++ dropEndWhile test rest := by
  simp only [dropEndWhile, ne_eq, List.reverse_eq_nil_iff] at left
  simp [dropEndWhile, List.dropWhile_append, left]

theorem dropEndWhile_isPrefix (test : Char → Bool) (text : List Char) : dropEndWhile test text <+: text :=
  List.rdropWhile_prefix test text

/-- Whether a text is empty or begins with a slash. -/
def IsSlashed (text : List Char) : Prop := text = [] ∨ ∃ rest, text = '/' :: rest

theorem IsSlashed.of_isPrefix {text front : List Char} (slashed : IsSlashed text)
    (begins : front <+: text) : IsSlashed front := by
  cases front with
  | nil => exact .inl rfl
  | cons c rest =>
      obtain rfl | ⟨others, rfl⟩ := slashed
      · exact absurd (List.prefix_nil.mp begins) (List.cons_ne_nil _ _)
      · exact .inr ⟨rest, by rw [(List.cons_prefix_cons.mp begins).1]⟩

end Text

namespace Scheme

/-- The name of a scheme. -/
def name : Scheme → List Char
  | .http => "http".toList
  | .https => "https".toList

theorem mark_eq (scheme : Scheme) : scheme.mark = scheme.name ++ [':', '/', '/'] := by
  cases scheme <;> rfl

/-- The scheme at the start of a text, its letters in either case. -/
def start? (text : List Char) : Option Scheme :=
  [http, https].find? fun scheme => scheme.mark.isPrefixOf (text.map Char.toLower)

/-- Only one scheme can stand at the start of a text. -/
theorem eq_of_mark_isPrefix {scheme other : Scheme} {text : List Char} (here : scheme.mark <+: text)
    (there : other.mark <+: text) : scheme = other := by
  have apart : ¬http.mark <+: https.mark := by decide
  cases scheme <;> cases other
  · rfl
  · exact absurd (List.prefix_of_prefix_length_le here there (by decide)) apart
  · exact absurd (List.prefix_of_prefix_length_le there here (by decide)) apart
  · rfl

/-- A scheme is found at the start of a text when the text begins with it in letters of either case. -/
theorem start?_eq_some_iff_isPrefix {text : List Char} {scheme : Scheme} :
    start? text = some scheme ↔ scheme.mark <+: text.map Char.toLower := by
  have of_found : ∀ {found}, start? text = some found → found.mark <+: text.map Char.toLower := by
    intro found same
    have begins := List.find?_some same
    exact List.isPrefixOf_iff_prefix.mp begins
  refine ⟨of_found, fun here => ?_⟩
  cases found : start? text with
  | none =>
      have listed : scheme ∈ [http, https] := by cases scheme <;> simp
      exact absurd (List.isPrefixOf_iff_prefix.mpr here) (List.find?_eq_none.mp found scheme listed)
  | some other => rw [eq_of_mark_isPrefix (of_found found) here]

theorem start?_eq_some_iff {text : List Char} {scheme : Scheme} :
    start? text = some scheme ↔
      ∃ front rest, text = front ++ rest ∧ front.map Char.toLower = scheme.mark := by
  rw [start?_eq_some_iff_isPrefix]
  constructor
  · rintro ⟨behind, same⟩
    obtain ⟨front, rest, rfl, spelled, _⟩ := List.map_eq_append_iff.mp same.symm
    exact ⟨front, rest, rfl, spelled⟩
  · rintro ⟨front, rest, rfl, spelled⟩
    rw [List.map_append, spelled]
    exact List.prefix_append _ _

theorem start?_of_isPrefix {text : List Char} {scheme : Scheme} (here : scheme.mark <+: text) :
    start? text = some scheme := by
  obtain ⟨rest, rfl⟩ := here
  exact start?_eq_some_iff.mpr ⟨scheme.mark, rest, rfl, by cases scheme <;> rfl⟩

theorem exists_word {scheme : Scheme} {front : List Char}
    (spelled : front.map Char.toLower = scheme.mark) :
    ∃ word, front = word ++ [':', '/', '/'] ∧ word.map Char.toLower = scheme.name ∧
      ∀ c ∈ word, c.isAlpha = true := by
  rw [mark_eq] at spelled
  obtain ⟨word, sign, rfl, named, signed⟩ := List.map_eq_append_iff.mp spelled
  refine ⟨word, ?_, named, fun c member => ?_⟩
  · have unchanged : sign = sign.map Char.toLower := by
      refine (List.map_id sign).symm.trans (List.map_congr_left fun c member => ?_)
      have mark : c.toLower ∈ [':', '/', '/'] := signed ▸ List.mem_map_of_mem member
      have noLetter : [':', '/', '/'].any Char.isAlpha = false := rfl
      exact eq_of_toLower_eq rfl (Bool.eq_false_iff.mpr (List.any_eq_false.mp noLetter _ mark))
    rw [unchanged, signed]
  · have letter : c.toLower ∈ scheme.name := named ▸ List.mem_map_of_mem member
    have letters : scheme.name.all Char.isAlpha = true := by cases scheme <;> rfl
    exact (Char.isAlpha_toLower_eq_isAlpha c).symm.trans (List.all_eq_true.mp letters _ letter)

end Scheme

namespace Connection

/-- The scheme that an entry gives, its letters in either case. -/
def givenScheme? (host : String) : Option Scheme := Scheme.start? (Text.trimChars host.toList)

/-- What an entry gives behind its scheme, without slashes at the end. -/
def givenRest (host : String) : List Char :=
  let length := ((givenScheme? host).map fun scheme => scheme.mark.length).getD 0
  Text.dropEndWhile (fun c => c = '/') ((Text.trimChars host.toList).drop length)

/-- Whether an entry gives a scheme that is not found: it is not in lower case, or all that it has
behind it is slashes. -/
def IsMisread (host : String) : Prop :=
  ∃ scheme ∈ givenScheme? host,
    ¬scheme.mark <+: Text.trimChars host.toList ∨ givenRest host = []

instance : DecidablePred IsMisread := fun _ => inferInstanceAs (Decidable (∃ _ ∈ _, _))

/-- Whether a URL is what an entry stands for: the scheme that it gives, in letters of either case, or
else `http`, and then what the entry gives. -/
def IsUrlOf (host url : String) : Prop :=
  match givenScheme? host with
  | some scheme => ∃ front, front.map Char.toLower = scheme.mark ∧
      url.toList = front ++ givenRest host
  | none => url.toList = Scheme.http.mark ++ givenRest host

/-! ## How entries are read -/

theorem toList_baseUrl_of_isPrefix {host : String} {scheme : Scheme}
    (found : scheme.mark <+: trimHost host) : (baseUrl host).toList = trimHost host := by
  have marked : (schemeMarks.any fun mark => mark.isPrefixOf (trimHost host)) = true := by
    refine List.any_eq_true.mpr ⟨scheme.mark, ?_, List.isPrefixOf_iff_prefix.mpr found⟩
    cases scheme
    · exact List.mem_cons_self
    · exact List.mem_cons_of_mem _ List.mem_cons_self
  rw [baseUrl, if_pos marked, String.toList_ofList]

theorem toList_baseUrl_of_not_isPrefix {host : String}
    (unfound : ∀ scheme : Scheme, ¬scheme.mark <+: trimHost host) :
    (baseUrl host).toList = Scheme.http.mark ++ trimHost host := by
  have unmarked : ¬(schemeMarks.any fun mark => mark.isPrefixOf (trimHost host)) = true := by
    intro marked
    obtain ⟨mark, listed, begins⟩ := List.any_eq_true.mp marked
    have scheme : ∃ scheme : Scheme, scheme.mark = mark := by
      rcases List.mem_pair.mp listed with rfl | rfl
      · exact ⟨.http, rfl⟩
      · exact ⟨.https, rfl⟩
    obtain ⟨scheme, rfl⟩ := scheme
    exact unfound scheme (List.isPrefixOf_iff_prefix.mp begins)
  rw [baseUrl, if_neg unmarked, String.toList_ofList]
  rfl

theorem givenScheme?_of_isPrefix {host : String} {scheme : Scheme}
    (found : scheme.mark <+: trimHost host) : givenScheme? host = some scheme :=
  Scheme.start?_of_isPrefix (found.trans (Text.dropEndWhile_isPrefix _ _))

/-- How an entry is read. -/
inductive IsRead (host : String) : Prop
  /-- Without a scheme, an entry is put behind one. -/
  | plain (ungiven : givenScheme? host = none)
      (url : (baseUrl host).toList = Scheme.http.mark ++ givenRest host)
  /-- With a scheme that is found, an entry is left as it is. -/
  | found (scheme : Scheme) (given : givenScheme? host = some scheme)
      (sound : ¬IsMisread host) (url : (baseUrl host).toList = scheme.mark ++ givenRest host)
  /-- With a scheme that is not found, an entry is put behind another one. -/
  | misread (scheme : Scheme) (word tail : List Char) (given : givenScheme? host = some scheme)
      (unsound : IsMisread host) (named : word.map Char.toLower = scheme.name)
      (letters : ∀ c ∈ word, c.isAlpha = true) (trimmed : trimHost host = word ++ ':' :: tail)
      (slashed : Text.IsSlashed tail)
      (longer : (givenRest host).length + 1 < (trimHost host).length)
      (url : (baseUrl host).toList = Scheme.http.mark ++ trimHost host)

theorem isMisread_iff {host : String} {scheme : Scheme} (given : givenScheme? host = some scheme) :
    IsMisread host ↔ ¬scheme.mark <+: Text.trimChars host.toList ∨ givenRest host = [] := by
  simp [IsMisread, given]

/-- What is left of an entry with a scheme when slashes are taken from its end: the scheme and what
stands behind it, or the name of the scheme and a colon. -/
theorem trimHost_cases {host : String} {scheme : Scheme} {word rest : List Char}
    (given : givenScheme? host = some scheme) (named : word.map Char.toLower = scheme.name)
    (split : Text.trimChars host.toList = word ++ [':', '/', '/'] ++ rest) :
    (givenRest host ≠ [] ∧ trimHost host = word ++ [':', '/', '/'] ++ givenRest host) ∨
      givenRest host = [] ∧ trimHost host = word ++ [':'] := by
  have behind : givenRest host = Text.dropEndWhile (fun c => c = '/') rest := by
    have length : scheme.mark.length = (word ++ [':', '/', '/']).length := by
      rw [Scheme.mark_eq, ← named, List.length_append, List.length_map, List.length_append]
    simp only [givenRest, given, split, Option.map_some, Option.getD_some, length, List.drop_left]
  have colon : word ++ [':', '/', '/'] ++ rest = word ++ ':' :: (['/', '/'] ++ rest) :=
    List.append_assoc ..
  have trimmed : trimHost host =
      word ++ ':' :: Text.dropEndWhile (fun c => c = '/') (['/', '/'] ++ rest) := by
    rw [trimHost, split, colon]
    exact Text.dropEndWhile_append_cons (by decide) word _
  rw [behind, trimmed]
  by_cases left : Text.dropEndWhile (fun c => c = '/') rest = []
  · refine .inr ⟨left, ?_⟩
    have slashes := List.rdropWhile_eq_nil_iff.mp left
    have none : Text.dropEndWhile (fun c => c = '/') (['/', '/'] ++ rest) = [] :=
      List.rdropWhile_eq_nil_iff.mpr (by simpa using slashes)
    rw [none]
  · refine .inl ⟨left, ?_⟩
    rw [Text.dropEndWhile_append_of_ne_nil left, List.append_assoc]
    rfl

theorem not_isPrefix_of_isMisread {host : String} (misread : IsMisread host) (scheme : Scheme) :
    ¬scheme.mark <+: trimHost host := by
  intro begins
  have given := givenScheme?_of_isPrefix begins
  obtain ⟨front, rest, split, spelled⟩ := Scheme.start?_eq_some_iff.mp given
  obtain ⟨word, rfl, named, _⟩ := Scheme.exists_word spelled
  have lower : scheme.mark <+: Text.trimChars host.toList :=
    begins.trans (Text.dropEndWhile_isPrefix _ _)
  have none := ((isMisread_iff given).mp misread).resolve_left (not_not.mpr lower)
  obtain ⟨left, _⟩ | ⟨_, trimmed⟩ := trimHost_cases given named split
  · exact left none
  · have short := begins.length_le
    rw [trimmed, Scheme.mark_eq, ← named] at short
    simp at short

theorem isRead (host : String) : IsRead host := by
  cases given : givenScheme? host with
  | none =>
      have trimmed : trimHost host = givenRest host := by
        simp only [givenRest, given, Option.map_none, Option.getD_none, List.drop_zero]
        rfl
      refine .plain given (trimmed ▸ toList_baseUrl_of_not_isPrefix fun scheme begins => ?_)
      simp [givenScheme?_of_isPrefix begins] at given
  | some scheme =>
      obtain ⟨front, rest, split, spelled⟩ := Scheme.start?_eq_some_iff.mp given
      obtain ⟨word, rfl, named, letters⟩ := Scheme.exists_word spelled
      have cases := trimHost_cases given named split
      by_cases misread : IsMisread host
      · have url := toList_baseUrl_of_not_isPrefix (not_isPrefix_of_isMisread misread)
        have long : 0 < word.length := by
          rw [← List.length_map Char.toLower, named]
          cases scheme <;> decide
        obtain ⟨_, trimmed⟩ | ⟨none, trimmed⟩ := cases
        · rw [List.append_assoc] at trimmed
          have longer : (givenRest host).length + 1 < (trimHost host).length := by
            simp only [trimmed, List.length_append, List.length_cons]
            omega
          exact .misread scheme word _ given misread named letters trimmed (.inr ⟨_, rfl⟩) longer url
        · have longer : (givenRest host).length + 1 < (trimHost host).length := by
            simpa [trimmed, none] using long
          exact .misread scheme word [] given misread named letters trimmed (.inl rfl) longer url
      · obtain ⟨lower, left⟩ := not_or.mp (mt (isMisread_iff given).mpr misread)
        have same : word ++ [':', '/', '/'] = scheme.mark := by
          have begins : word ++ [':', '/', '/'] <+: Text.trimChars host.toList := ⟨rest, split.symm⟩
          refine (List.prefix_of_prefix_length_le begins (not_not.mp lower) ?_).eq_of_length ?_ <;>
            rw [Scheme.mark_eq, ← named] <;> simp
        have trimmed : trimHost host = scheme.mark ++ givenRest host := by
          rw [← same]
          exact (cases.resolve_right fun none => left none.1).2
        refine .found scheme given misread ?_
        rw [toList_baseUrl_of_isPrefix ⟨_, trimmed.symm⟩, trimmed]

/-- The URL of an entry is what the entry stands for exactly when it is not misread. -/
theorem isUrlOf_iff (host : String) : IsUrlOf host (baseUrl host) ↔ ¬IsMisread host := by
  cases isRead host with
  | plain ungiven url =>
      have sound : ¬IsMisread host := by simp [IsMisread, ungiven]
      simp only [IsUrlOf, ungiven, url, sound, not_false_eq_true]
  | found scheme given sound url =>
      simp only [IsUrlOf, given, url, sound, not_false_eq_true, iff_true]
      exact ⟨scheme.mark, by cases scheme <;> rfl, rfl⟩
  | misread scheme word tail given unsound named letters trimmed slashed longer url =>
      refine iff_of_false ?_ (not_not.mpr unsound)
      simp only [IsUrlOf, given]
      rintro ⟨front, spelled, same⟩
      -- A scheme and what the entry gives are too short for another scheme and the whole entry.
      have lengths := congrArg List.length (url.symm.trans same)
      have short : front.length ≤ Scheme.http.mark.length + 1 := by
        rw [← List.length_map Char.toLower, spelled]
        cases scheme <;> decide
      rw [List.length_append, List.length_append] at lengths
      omega

end Connection

end DocumentSearch
