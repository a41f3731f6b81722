import DocumentSearch.Json.Shape
import DocumentSearch.Proofs.PrintedValues
import Mathlib.Data.List.Forall2

/-!
# Printed values are read by their shape

A reader for values of one shape takes a written form of such a value as it takes any other value.  A
record is read from an object with its fields in order, each of them of its own shape.
-/

namespace DocumentSearch

namespace Json

namespace Shape

/-- Whether a reader makes of all written forms of a value what any reader makes of them. -/
def Accepts (shape : NestedReader Json) (json : Json) : Prop :=
  ∀ (depth : Nat) (layout : Layout) (level : Nat),
    Takes (shape depth) (layout.write level json) (reread depth json)

variable {shape : NestedReader Json} {json : Json}

theorem accepts_any (json : Json) : Accepts any json :=
  fun depth layout level => takes_value layout json depth level

theorem accepts_bool (value : Bool) : Accepts bool (.bool value) := by
  intro depth layout level blanks rest blank ends
  have read : valueWith none (compact (.bool value) ++ rest) = .ok (.bool value, rest) :=
    (takes_bool value).apply ends
  rw [bool, skipBlanks_append blank, Layout.write_bool, reread]
  cases value <;> exact read

theorem accepts_string (value : String) : Accepts string (.string value) := by
  intro depth layout level blanks rest blank ends
  have read : valueWith none (compact (.string value) ++ rest) = .ok (.string value, rest) :=
    (takes_string value).apply ends
  rw [string, skipBlanks_append blank, Layout.write_string, reread]
  exact read

theorem accepts_number {accepts : Json → Bool} {value : Number}
    (accepted : ∀ read, value.reread = .ok read → accepts (.number read) = true) :
    Accepts (number accepts) (.number value) := by
  intro depth layout level blanks rest blank ends
  have read := value.number?_numberChars ends
  obtain ⟨first, others, parted, visible, -⟩ := begins_numberChars value
  have kept : skipBlanks (numberChars value ++ rest) = numberChars value ++ rest := by
    rw [parted]
    exact skipBlanks_cons visible _
  rw [number, skipBlanks_append blank, Layout.write_number, compact, kept, read, Json.reread]
  cases known : value.reread with
  | error fault => rfl
  | ok found =>
      simp only [Except.map, bind, Except.bind, accepted found known, if_true]
      rfl

theorem accepts_double (value : Number) : Accepts double (.number value) :=
  accepts_number fun _ _ => rfl

theorem accepts_natBelow {bound : Nat} {value : Int}
    {bounded : -9223372036854775808 ≤ value ∧ value < 18446744073709551616}
    (below : (asNatBelow? bound (.number (.integer value bounded))).isSome = true) :
    Accepts (natBelow bound) (.number (.integer value bounded)) := by
  refine accepts_number fun read known => ?_
  rw [Number.reread_integer bounded] at known
  cases known
  exact below

theorem accepts_null (shape : NestedReader Json) : Accepts (nullable shape) .null := by
  intro depth layout level blanks rest blank _
  rw [nullable, skipBlanks_append blank, Layout.write_null, Json.reread]
  rfl

theorem first_ne_of_ne_null {level : Nat} {layout : Layout} (notNull : json ≠ .null) {first : Char}
    {others : List Char} (parted : layout.write level json = first :: others) : first ≠ 'n' := by
  cases json with
  | null => exact absurd rfl notNull
  | bool value =>
      rw [Layout.write_bool] at parted
      cases value <;> cases parted <;> decide
  | number value =>
      obtain ⟨sign, rest, found, starts⟩ := (isNumeral_numberChars value).exists_cons
      rw [Layout.write_number, compact, found] at parted
      cases parted
      rintro rfl
      exact absurd starts (by decide)
  | string value =>
      rw [Layout.write_string] at parted
      cases parted
      decide
  | array items =>
      rw [Layout.write_array] at parted
      cases parted
      decide
  | object entries =>
      rw [Layout.write_object] at parted
      cases parted
      decide

theorem accepts_nullable (accepted : Accepts shape json) (notNull : json ≠ .null) :
    Accepts (nullable shape) json := by
  intro depth layout level blanks rest blank ends
  have read := (accepted depth layout level).apply ends
  obtain ⟨first, others, parted, visible, -⟩ := layout.begins_write level json
  have notN := first_ne_of_ne_null notNull parted
  have kept : skipBlanks (layout.write level json ++ rest) = first :: (others ++ rest) := by
    rw [parted]
    exact skipBlanks_cons visible _
  rw [nullable, skipBlanks_append blank, kept]
  split
  · rename_i same
    exact absurd (List.cons.inj same).1 notN
  · rw [← List.cons_append, ← parted]
    exact read

theorem accepts_list {items : List Json} (accepted : ∀ item ∈ items, Accepts shape item) :
    Accepts (list shape) (.array items) := by
  intro depth layout level blanks rest blank _
  cases depth with
  | zero =>
      unfold list
      rw [skipBlanks_append blank, Layout.write_array]
      rfl
  | succ depth =>
      have read := Layout.foldItems_itemsPart
        (fun item member => accepted item member depth layout (level + 1)) rest
      have step : list shape (depth + 1) (blanks ++ (layout.write level (.array items) ++ rest)) =
          foldItems (collect (shape depth)) ((layout.itemsPart level items ++ rest).length + 1) true []
            (layout.itemsPart level items ++ rest) >>= fun taken =>
              .ok (.array taken.1.reverse, taken.2) := by
        unfold list
        rw [skipBlanks_append blank, Layout.write_array]
        rfl
      rw [step, read, Json.reread]
      cases rereadItems depth items with
      | error fault => rfl
      | ok found => simp [Except.map, bind, Except.bind]

theorem accepts_map (entries : List (String × Json)) : Accepts map (.object entries) := by
  intro depth layout level blanks rest blank ends
  have read := (takes_value layout (.object entries) depth level).apply ends
  rw [Layout.write_object] at read
  rw [map, skipBlanks_append blank, Layout.write_object]
  exact read

/-! ## Records -/

variable {fields : List Field} {entries : List (String × Json)}

/-- Whether the entries of an object are the fields of a record, each with a value of its shape. -/
def Fits (fields : List Field) (entries : List (String × Json)) : Prop :=
  List.Forall₂ (fun field entry => field.key = entry.1 ∧ Accepts field.read entry.2) fields entries

theorem Fits.keys_eq (fits : Fits fields entries) :
    Entries.keys entries = fields.map Field.key := by
  induction fits with
  | nil => rfl
  | cons first _ ih => rw [Entries.keys_cons, List.map_cons, first.1, ih]

/-- The entry of a key is read by the field of this key. -/
theorem Fits.find?_eq (fits : Fits fields entries) (distinct : (fields.map Field.key).Nodup)
    {key : String} {value : Json} (listed : (key, value) ∈ entries) :
    ∃ field, fields.find? (fun field => field.key = key) = some field ∧
      Accepts field.read value := by
  induction fits with
  | nil => cases listed
  | @cons field entry fields entries first rest ih =>
      obtain ⟨unlike, others⟩ := List.nodup_cons.mp distinct
      obtain ⟨named, accepted⟩ := first
      obtain rfl | later := List.mem_cons.mp listed
      · exact ⟨field, List.find?_cons_of_pos (by simpa using named), accepted⟩
      · obtain ⟨found, same, accepted⟩ := ih others later
        refine ⟨found, ?_, accepted⟩
        rw [List.find?_cons_of_neg, same]
        have among : key ∈ fields.map Field.key := by
          rw [← Fits.keys_eq rest]
          exact List.mem_map_of_mem later
        simp only [decide_eq_true_eq]
        rintro rfl
        exact unlike among

theorem insertsEntries_entry {layout : Layout} {level depth : Nat}
    {other : String → Reader (Option Json)}
    (each : ∀ listed ∈ entries, ∃ field,
      fields.find? (fun field => field.key = listed.1) = some field ∧ Accepts field.read listed.2)
    {before : OrderedMap Json} (fresh : (before.keys ++ Entries.keys entries).Nodup) :
    layout.InsertsEntries level depth (entry fields other depth) before entries := by
  induction entries generalizing before with
  | nil => trivial
  | cons listed entries ih =>
      obtain ⟨key, json⟩ := listed
      obtain ⟨field, found, accepted⟩ := each (key, json) List.mem_cons_self
      have absent : key ∉ before.keys := fun present =>
        List.disjoint_of_nodup_append fresh present List.mem_cons_self
      refine ⟨fun rest ends => ?_, fun value => ?_⟩
      · have read := accepted depth layout level layout.gap rest layout.gap_blank ends
        have notGiven : (Entries.keys before.entries).contains key = false := by
          simpa [OrderedMap.keys] using absent
        rw [entry, found]
        simp only [notGiven, Bool.false_eq_true, if_false, colon_valuePart, bind, Except.bind, read]
        cases Json.reread depth json with
        | error fault => rfl
        | ok value =>
            have inserted := OrderedMap.entries_insert_of_not_mem value absent
            simp only [Except.map, inserted]
            rfl
      · refine ih (fun listed member => each listed (List.mem_cons_of_mem _ member)) ?_
        have moved : (before.insert key value).keys = before.keys ++ [key] := by
          rw [OrderedMap.keys, OrderedMap.entries_insert_of_not_mem value absent,
            Entries.keys_append]
          rfl
        rwa [moved, List.append_assoc]

theorem isComplete_of_keys_eq {row : Row} (same : Entries.keys row = fields.map Field.key) :
    Row.isComplete fields row = true := by
  refine List.all_eq_true.mpr fun field listed => ?_
  have given : field.key ∈ Entries.keys row := same ▸ List.mem_map_of_mem listed
  simp [given]

/-- A record is read from an object with its fields in order. -/
theorem accepts_record (fits : Fits fields entries) (distinct : (fields.map Field.key).Nodup) :
    Accepts (record fields) (.object entries) := by
  intro depth layout level blanks rest blank _
  cases depth with
  | zero =>
      unfold record
      rw [skipBlanks_append blank, Layout.write_object]
      rfl
  | succ depth =>
      have unique : (Entries.keys entries).Nodup := fits.keys_eq ▸ distinct
      have inserts : layout.InsertsEntries (level + 1) depth
          (entry fields (fun _ text => do return (none, (← skipValue text).2)) depth) .empty entries :=
        insertsEntries_entry (fun listed member => fits.find?_eq distinct member) unique
      have read := Layout.foldEntries_entriesPart inserts rest
      have step : record fields (depth + 1) (blanks ++ (layout.write level (.object entries) ++ rest)) =
          Shape.entries fields (fun _ text => do return (none, (← skipValue text).2)) depth
            (layout.entriesPart level entries ++ rest) := by
        unfold record
        rw [skipBlanks_append blank, Layout.write_object]
        rfl
      rw [step, Shape.entries, read, Json.reread]
      cases known : rereadEntries depth entries with
      | error fault => rfl
      | ok found =>
          have keys := keys_of_rereadEntries known
          have complete : Row.isComplete fields (Entries.lastWrites found) = true := by
            rw [OrderedMap.lastWrites_of_nodup (keys ▸ unique)]
            exact isComplete_of_keys_eq (keys.trans fits.keys_eq)
          simp only [Except.map, bind, Except.bind, complete, if_true]
          rfl

/-- What is printed is decoded in the same way with and without regard to its shape. -/
theorem decodeText_of_accepts {α : Type} {decode : Json → Option α} {text : String}
    (accepted : Accepts shape json) (written : json.IsWrittenAs text) :
    decodeText shape decode text =
      ofText text >>= fun found => (decode found).elim (.error .mismatch) .ok := by
  rw [decodeText, decodeAll, readAll_of_takes (accepted depthLimit) written, ofText_eq_reread written]
  cases Json.reread depthLimit json with
  | error fault => rfl
  | ok found =>
      simp only [bind, Except.bind]
      cases decode found <;> rfl

end Shape

end Json

end DocumentSearch
