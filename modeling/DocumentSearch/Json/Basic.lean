import DocumentSearch.Number.Binary64
import DocumentSearch.OrderedMap

/-!
# JSON values

A JSON number is an integer of 64 bits, signed or unsigned, or a finite double; both ranges are part
of the type.  An object is its list of entries in written order.  Where the keys have to be distinct
an object is held as an `OrderedMap` instead, and `Json.ofMap` and `Json.asMap?` go between the two.
-/

namespace DocumentSearch

/-- A JSON number. -/
inductive Number
  /-- An integer that fits into 64 bits, with or without a sign. -/
  | integer (value : Int) (bounded : -9223372036854775808 ≤ value ∧ value < 18446744073709551616)
  /-- Any other number, as the nearest double. -/
  | double (value : Binary64) (finite : value.isFinite = true)
deriving DecidableEq, Repr

namespace Number

/-- The number of an integer, if it fits. -/
def ofInt? (value : Int) : Option Number :=
  if bounded : -9223372036854775808 ≤ value ∧ value < 18446744073709551616 then
    some (.integer value bounded)
  else none

/-- The number of a double, if it is finite. -/
def ofBinary64? (value : Binary64) : Option Number :=
  if finite : value.isFinite = true then some (.double value finite) else none

/-- The number of a 64-bit signed integer. -/
def ofInt64 (value : Int64) : Number :=
  .integer value.toInt
    ⟨value.le_toInt, Int.lt_trans value.toInt_lt (by decide)⟩

/-- The number of a 64-bit unsigned integer. -/
def ofUInt64 (value : UInt64) : Number :=
  .integer value.toNat
    ⟨by omega, by have := value.toNat_lt; omega⟩

/-- The number of a 32-bit unsigned integer. -/
def ofUInt32 (value : UInt32) : Number :=
  .integer value.toNat
    ⟨by omega, by have := value.toNat_lt; omega⟩

/-- The number of a 16-bit unsigned integer. -/
def ofUInt16 (value : UInt16) : Number :=
  .integer value.toNat
    ⟨by omega, by have := value.toNat_lt; omega⟩

/-- The double nearest to a number. -/
def toBinary64 : Number → Binary64
  | .integer value _ => Binary64.ofInt value
  | .double value _ => value

end Number

/-- A JSON value. -/
inductive Json
  | null
  | bool (value : Bool)
  | number (value : Number)
  | string (value : String)
  | array (items : List Json)
  | object (entries : List (String × Json))
deriving Repr, Inhabited

namespace Json

mutual

/-- Equality of values, by comparing the parts. -/
def same : Json → Json → Bool
  | .null, .null => true
  | .bool left, .bool right => left == right
  | .number left, .number right => decide (left = right)
  | .string left, .string right => decide (left = right)
  | .array left, .array right => sameItems left right
  | .object left, .object right => sameEntries left right
  | _, _ => false

/-- Equality of lists of values. -/
def sameItems : List Json → List Json → Bool
  | [], [] => true
  | left :: lefts, right :: rights => same left right && sameItems lefts rights
  | _, _ => false

/-- Equality of lists of entries. -/
def sameEntries : List (String × Json) → List (String × Json) → Bool
  | [], [] => true
  | (leftKey, left) :: lefts, (rightKey, right) :: rights =>
      decide (leftKey = rightKey) && same left right && sameEntries lefts rights
  | _, _ => false

end

mutual

theorem same_iff : ∀ left right : Json, same left right = true ↔ left = right
  | .null, right => by cases right <;> simp [same]
  | .bool _, right => by cases right <;> simp [same]
  | .number _, right => by cases right <;> simp [same]
  | .string _, right => by cases right <;> simp [same]
  | .array items, right => by cases right <;> simp [same, sameItems_iff items]
  | .object entries, right => by cases right <;> simp [same, sameEntries_iff entries]

theorem sameItems_iff : ∀ left right : List Json, sameItems left right = true ↔ left = right
  | [], right => by cases right <;> simp [sameItems]
  | item :: rest, right => by
      cases right <;> simp [sameItems, same_iff item, sameItems_iff rest]

theorem sameEntries_iff : ∀ left right : List (String × Json),
    sameEntries left right = true ↔ left = right
  | [], right => by cases right <;> simp [sameEntries]
  | (key, value) :: rest, right => by
      cases right with
      | nil => simp [sameEntries]
      | cons entry entries =>
          obtain ⟨otherKey, otherValue⟩ := entry
          simp [sameEntries, same_iff value, sameEntries_iff rest]

end

instance : DecidableEq Json := fun left right =>
  decidable_of_iff (same left right = true) (same_iff left right)

/-- The object with the entries of a map. -/
def ofMap (map : OrderedMap Json) : Json := .object map.entries

/-- An object as a map; of a repeated key the last value counts and the first position. -/
def asMap? : Json → Option (OrderedMap Json)
  | .object entries => some (OrderedMap.ofList entries)
  | _ => none

/-- The value of a double; one that is not finite has no number and becomes `null`. -/
def ofBinary64 (value : Binary64) : Json :=
  match Number.ofBinary64? value with
  | some value => .number value
  | none => .null

/-- The value itself, or `null` when there is none. -/
def ofOption {α : Type} (encode : α → Json) : Option α → Json
  | some value => encode value
  | none => .null

/-- The truth value. -/
def asBool? : Json → Option Bool
  | .bool value => some value
  | _ => none

/-- The text of a string. -/
def asString? : Json → Option String
  | .string value => some value
  | _ => none

/-- The items of an array. -/
def asItems? : Json → Option (List Json)
  | .array items => some items
  | _ => none

/-- The integer of a number that is written as one. -/
def asInt? : Json → Option Int
  | .number (.integer value _) => some value
  | _ => none

/-- An integer below `bound`. -/
def asNatBelow? (bound : Nat) (json : Json) : Option Nat :=
  match json.asInt? with
  | some value => if 0 ≤ value ∧ value < bound then some value.toNat else none
  | none => none

/-- An unsigned integer of 64 bits. -/
def asUInt64? (json : Json) : Option UInt64 := (json.asNatBelow? UInt64.size).map UInt64.ofNat

/-- An unsigned integer of 32 bits. -/
def asUInt32? (json : Json) : Option UInt32 := (json.asNatBelow? UInt32.size).map UInt32.ofNat

/-- An unsigned integer of 16 bits. -/
def asUInt16? (json : Json) : Option UInt16 := (json.asNatBelow? UInt16.size).map UInt16.ofNat

/-- A signed integer of 64 bits. -/
def asInt64? (json : Json) : Option Int64 :=
  match json.asInt? with
  | some value => if value ≤ Int64.maxValue.toInt then some (Int64.ofInt value) else none
  | none => none

/-- The double nearest to any number. -/
def asBinary64? : Json → Option Binary64
  | .number value => some value.toBinary64
  | _ => none

/-- Whether the value is a string, a number or a truth value. -/
def isScalar : Json → Bool
  | .bool _ | .number _ | .string _ => true
  | _ => false

end Json

end DocumentSearch
