import DocumentSearch.Condition.Bounds

/-!
# Predicates

How a field is compared with its value: by full text, by one exact term, by a set of terms, or by a
range.  A predicate may be put together freely; `Predicate.validate` tells whether it is well
formed.
-/

namespace DocumentSearch

/-- How a field is compared with its value. -/
inductive Predicate
  /-- The analysed text of the field matches the value. -/
  | matches (value : Json)
  /-- The field equals the value. -/
  | term (value : Json)
  /-- The field equals one of the values. -/
  | terms (values : List Json)
  /-- The field lies between the bounds. -/
  | range (bounds : Bounds)
deriving DecidableEq, Repr

namespace Predicate

/-- A single value has to be a string, a number or a truth value. -/
def checkScalar : Json → Except InvalidInput Unit
  | .null => .error .nullValue
  | .array items => .error (.nestedValue (.array items))
  | .object entries => .error (.nestedValue (.object entries))
  | _ => .ok ()

/-- Checks values from left to right. -/
def checkScalars : List Json → Except InvalidInput Unit
  | [] => .ok ()
  | value :: rest =>
      match checkScalar value with
      | .ok () => checkScalars rest
      | .error cause => .error cause

/-- Whether the predicate is well formed: its values are scalars, a set of terms is not empty and a
range has a bound. -/
def validate : Predicate → Except InvalidInput Unit
  | .matches value | .term value => checkScalar value
  | .terms [] => .error .noTerms
  | .terms values => checkScalars values
  | .range bounds => if bounds.isUnbounded then .error .noBound else .ok ()

/-- Whether the predicate compares exactly, so that it can be used as a filter. -/
def isExact : Predicate → Bool
  | .matches _ => false
  | _ => true

/-- The full-text predicate for a value; an array asks for membership. -/
def matching : Json → Predicate
  | .array values => .terms values
  | value => .matches value

/-- The exact predicate for a value; an array asks for membership. -/
def exact : Json → Predicate
  | .array values => .terms values
  | value => .term value

end Predicate

end DocumentSearch
