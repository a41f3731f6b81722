import DocumentSearch.Condition.Operator

/-!
# Conditions

A condition is a named field together with a well-formed predicate; both properties are part of the
type.
-/

namespace DocumentSearch

/-- A field and the predicate it has to satisfy. -/
structure Condition where
  field : String
  predicate : Predicate
  /-- The field has a name. -/
  named : field ≠ ""
  /-- The predicate is well formed. -/
  wellFormed : predicate.validate = .ok ()
deriving Repr

namespace Condition

@[ext] theorem ext {left right : Condition} (sameField : left.field = right.field)
    (samePredicate : left.predicate = right.predicate) : left = right := by
  cases left
  cases right
  cases sameField
  cases samePredicate
  rfl

/-- A condition, unless the field has no name or the predicate is malformed. -/
def new (field : String) (predicate : Predicate) : Except InvalidInput Condition :=
  if named : field = "" then .error .emptyField
  else
    match wellFormed : predicate.validate with
    | .error cause => .error cause
    | .ok () => .ok ⟨field, predicate, named, wellFormed⟩

/-- The condition that compares a field with a value.  The value is looked at before the field. -/
def compare (field : String) (operator : Operator) (value : Json) :
    Except InvalidInput Condition := do
  let predicate ← operator.predicate value
  new field predicate

end Condition

end DocumentSearch
