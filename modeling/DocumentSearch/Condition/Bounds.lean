import DocumentSearch.Error
import DocumentSearch.Json.Shape

/-!
# Range bounds

A range has up to four bounds, one for each comparison.  A bound is an integer, a double or a text,
and is written without saying which: reading takes the first of the three that fits.
-/

namespace DocumentSearch

/-- A bound of a range. -/
inductive Bound
  | long (value : Int64)
  | double (value : Binary64)
  | string (value : String)
deriving DecidableEq, Repr

namespace Bound

/-- The written form; a double that is not finite has none and becomes `null`. -/
def toJson : Bound → Json
  | .long value => .number (.ofInt64 value)
  | .double value => Json.ofBinary64 value
  | .string value => .string value

/-- Reads a bound: an integer of 64 bits with sign, else any number, else a text. -/
def ofJson? (json : Json) : Option Bound :=
  match json.asInt64? with
  | some value => some (.long value)
  | none =>
      match json.asBinary64? with
      | some value => some (.double value)
      | none => json.asString?.map .string

/-- The bound for a value given by a caller. -/
def ofValue : Json → Except InvalidInput Bound
  | .number (.integer value _) =>
      if value ≤ Int64.maxValue.toInt then .ok (.long (Int64.ofInt value))
      else .ok (.double (Binary64.ofInt value))
  | .number (.double value _) => .ok (.double value)
  | .string value => .ok (.string value)
  | json => .error (.unusableBound json)

/-- The bound for an integer of 32 bits. -/
def ofInt32 (value : Int32) : Bound := .long value.toInt64

end Bound

/-- The comparison that a bound takes part in. -/
inductive Side
  | gt
  | gte
  | lt
  | lte
deriving DecidableEq, Repr

namespace Side

/-- The name of a comparison. -/
def name : Side → String
  | .gt => "gt"
  | .gte => "gte"
  | .lt => "lt"
  | .lte => "lte"

/-- The comparisons in the order in which they are written. -/
def all : List Side := [.gt, .gte, .lt, .lte]

end Side

/-- The bounds of a range. -/
structure Bounds where
  gt : Option Bound
  gte : Option Bound
  lt : Option Bound
  lte : Option Bound
deriving DecidableEq, Repr

namespace Bounds

/-- No bound on any side. -/
def unbounded : Bounds := ⟨none, none, none, none⟩

instance : Inhabited Bounds := ⟨unbounded⟩

/-- The bound on a side. -/
def get (bounds : Bounds) : Side → Option Bound
  | .gt => bounds.gt
  | .gte => bounds.gte
  | .lt => bounds.lt
  | .lte => bounds.lte

/-- Sets the bound on one side. -/
def set (bounds : Bounds) (side : Side) (value : Bound) : Bounds :=
  match side with
  | .gt => { bounds with gt := some value }
  | .gte => { bounds with gte := some value }
  | .lt => { bounds with lt := some value }
  | .lte => { bounds with lte := some value }

/-- Whether no side has a bound. -/
def isUnbounded (bounds : Bounds) : Bool :=
  Side.all.all fun side => (bounds.get side).isNone

@[simp] theorem get_set_self (bounds : Bounds) (side : Side) (value : Bound) :
    (bounds.set side value).get side = some value := by
  cases side <;> rfl

theorem get_set_of_ne (bounds : Bounds) {side other : Side} (value : Bound)
    (different : other ≠ side) : (bounds.set side value).get other = bounds.get other := by
  cases side <;> cases other <;> first | rfl | exact absurd rfl different

/-- The written form holds the sides that are set. -/
def toJson (bounds : Bounds) : Json :=
  .object (Side.all.filterMap fun side =>
    (bounds.get side).map fun value => (side.name, value.toJson))

/-- The four sides as fields of a record. -/
def fields : List Json.Field :=
  Side.all.map fun side =>
    { key := side.name
      presence := .optional
      read := Json.Shape.nullable (Json.Shape.checked fun json => (Bound.ofJson? json).isSome) }

/-- Reads the bounds of a range. -/
def ofJson? (json : Json) : Option Bounds := do
  let row ← Json.Row.ofJson? fields json
  let gt ← row.optional? Side.gt.name Bound.ofJson?
  let gte ← row.optional? Side.gte.name Bound.ofJson?
  let lt ← row.optional? Side.lt.name Bound.ofJson?
  let lte ← row.optional? Side.lte.name Bound.ofJson?
  return ⟨gt, gte, lt, lte⟩

/-- The bounds that a text holds. -/
def ofText (text : String) : Except Json.Fault Bounds :=
  Json.Shape.decodeText (Json.Shape.record fields) ofJson? text

end Bounds

end DocumentSearch
