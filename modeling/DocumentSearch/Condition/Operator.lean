import DocumentSearch.Condition.Predicate
import DocumentSearch.Text.Blank
import DocumentSearch.Text.Lowercase

/-!
# Comparison operators

The operators of conditions written as field, operator and value.  Every operator has several
spellings; case and surrounding white space do not matter.
-/

namespace DocumentSearch

/-- A comparison operator. -/
inductive Operator
  | eq
  | gt
  | gte
  | lt
  | lte
  | isIn
deriving DecidableEq, Repr

namespace Operator

/-- The operator with the given spelling in lower case. -/
def ofSpelling? (spelling : String) : Option Operator :=
  if spelling = "=" ∨ spelling = "==" ∨ spelling = "eq" then some .eq
  else if spelling = ">" ∨ spelling = "gt" then some .gt
  else if spelling = ">=" ∨ spelling = "gte" then some .gte
  else if spelling = "<" ∨ spelling = "lt" then some .lt
  else if spelling = "<=" ∨ spelling = "lte" then some .lte
  else if spelling = "in" then some .isIn
  else none

/-- Reads an operator. -/
def ofText (text : String) : Except InvalidInput Operator :=
  let spelling := Text.lowercase (Text.trim text)
  match ofSpelling? spelling with
  | some operator => .ok operator
  | none => .error (.unknownOperator spelling)

/-- The sign of an operator. -/
def sign : Operator → String
  | .eq => "="
  | .gt => ">"
  | .gte => ">="
  | .lt => "<"
  | .lte => "<="
  | .isIn => "in"

/-- The name of an operator. -/
def name : Operator → String
  | .eq => "eq"
  | .gt => "gt"
  | .gte => "gte"
  | .lt => "lt"
  | .lte => "lte"
  | .isIn => "in"

/-- The side of a range on which an ordering operator puts its bound. -/
def side? : Operator → Option Side
  | .gt => some .gt
  | .gte => some .gte
  | .lt => some .lt
  | .lte => some .lte
  | .eq | .isIn => none

/-- The predicate for a value, before it is checked. -/
def unchecked (operator : Operator) (value : Json) : Except InvalidInput Predicate :=
  match operator.side? with
  | some side => (Bound.ofValue value).map fun bound =>
      .range (Bounds.unbounded.set side bound)
  | none =>
      match operator, value with
      | .isIn, .array values => .ok (.terms values)
      | .isIn, value => .ok (.terms [value])
      | _, value => .ok (.matching value)

/-- The well-formed predicate that compares a field with a value. -/
def predicate (operator : Operator) (value : Json) : Except InvalidInput Predicate := do
  let predicate ← operator.unchecked value
  predicate.validate
  return predicate

end Operator

end DocumentSearch
