/-!
# Splitting texts

The parts of a text between occurrences of one character.  There is always at least one part.
-/

namespace DocumentSearch

namespace Text

/-- The parts between the occurrences of a character. -/
def split (separator : Char) : List Char → List (List Char)
  | [] => [[]]
  | c :: rest =>
      if c = separator then [] :: split separator rest
      else
        match split separator rest with
        | part :: parts => (c :: part) :: parts
        | [] => [[c]]

theorem split_of_not_mem {separator : Char} {part : List Char} (free : separator ∉ part) :
    split separator part = [part] := by
  induction part with
  | nil => rfl
  | cons c part ih =>
      rw [List.mem_cons, not_or] at free
      have different : c ≠ separator := fun same => free.1 same.symm
      rw [split, if_neg different, ih free.2]

theorem split_append_cons {separator : Char} {part : List Char} (free : separator ∉ part)
    (rest : List Char) :
    split separator (part ++ separator :: rest) = part :: split separator rest := by
  induction part with
  | nil => simp [split]
  | cons c part ih =>
      rw [List.mem_cons, not_or] at free
      have different : c ≠ separator := fun same => free.1 same.symm
      rw [List.cons_append, split, if_neg different, ih free.2]

end Text

end DocumentSearch
