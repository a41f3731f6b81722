import DocumentSearch.Text.Utf8

/-!
# Families of samples

A family holds one value for each combination of label values.  A combination is known by its
fingerprint, a word of 64 bits computed from the bytes of all its values together, so that
combinations which run together into the same bytes share one sample, the one that came first.
What happens to a sample depends on fingerprints alone: `Family.find?_update_self` and
`Family.find?_update_of_ne`.
-/

namespace DocumentSearch

/-- A value and the label values it stands under. -/
structure Sample (α : Type) where
  labels : List String
  value : α
deriving DecidableEq, Repr

/-- Takes one byte into a fingerprint. -/
def absorbByte (word : UInt64) (byte : UInt8) : UInt64 :=
  (word ^^^ byte.toUInt64) * 1099511628211

/-- The fingerprint of label values. -/
def fingerprint (labels : List String) : UInt64 :=
  (labels.flatMap fun label => Utf8.encode label.toList).foldl absorbByte 14695981039346656037

/-- Samples in the order in which they were first written. -/
abbrev Family (α : Type) := List (Sample α)

namespace Family

variable {α : Type}

/-- The value that label values stand for. -/
def find? (labels : List String) : Family α → Option α
  | [] => none
  | sample :: rest =>
      if fingerprint sample.labels = fingerprint labels then some sample.value
      else find? labels rest

/-- Changes the value that label values stand for.  A new sample starts from the initial value. -/
def update (labels : List String) (initial : α) (change : α → α) : Family α → Family α
  | [] => [⟨labels, change initial⟩]
  | sample :: rest =>
      if fingerprint sample.labels = fingerprint labels then
        ⟨sample.labels, change sample.value⟩ :: rest
      else sample :: update labels initial change rest

@[simp] theorem find?_nil (labels : List String) : find? labels ([] : Family α) = none := rfl

@[simp] theorem find?_update_self (labels : List String) (initial : α) (change : α → α)
    (family : Family α) :
    (family.update labels initial change).find? labels =
      some (change ((family.find? labels).getD initial)) := by
  induction family with
  | nil => simp [update, find?]
  | cons sample rest ih =>
      by_cases same : fingerprint sample.labels = fingerprint labels
      · simp [update, find?, same]
      · simp [update, find?, same, ih]

theorem find?_update_of_ne {labels other : List String} (initial : α) (change : α → α)
    (family : Family α) (different : fingerprint other ≠ fingerprint labels) :
    (family.update labels initial change).find? other = family.find? other := by
  induction family with
  | nil => simp [update, find?, different.symm]
  | cons sample rest ih =>
      by_cases same : fingerprint sample.labels = fingerprint labels
      · simp [update, find?, same, different.symm]
      · simp [update, find?, same, ih]

end Family

end DocumentSearch
