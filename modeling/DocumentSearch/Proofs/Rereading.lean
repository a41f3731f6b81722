import DocumentSearch.Proofs.Checks
import DocumentSearch.Proofs.OrderedMap
import DocumentSearch.Proofs.Reading

/-!
# What printed values are read as

When a value is printed and read again, every number becomes what its numeral is read as, and of the
entries of an object with the same key the last one counts; what is nested too deep is refused.  So a
value is read back exactly when it is not nested too deep, its objects repeat no key and its numbers are
read back.
-/

namespace DocumentSearch

namespace Json

mutual

/-- What a reader that goes so many levels deep makes of a printed value. -/
def reread : Nat → Json → Except Fault Json
  | _, .null => .ok .null
  | _, .bool value => .ok (.bool value)
  | _, .number value => value.reread.map .number
  | _, .string value => .ok (.string value)
  | 0, .array _ | 0, .object _ => .error .malformed
  | depth + 1, .array items => (rereadItems depth items).map .array
  | depth + 1, .object entries =>
      (rereadEntries depth entries).map fun found => .object (Entries.lastWrites found)

/-- What is made of the items of an array. -/
def rereadItems : Nat → List Json → Except Fault (List Json)
  | _, [] => .ok []
  | depth, item :: rest => do
      let item ← reread depth item
      let rest ← rereadItems depth rest
      return item :: rest

/-- What is made of the entries of an object. -/
def rereadEntries : Nat → List (String × Json) → Except Fault (List (String × Json))
  | _, [] => .ok []
  | depth, (key, value) :: rest => do
      let value ← reread depth value
      let rest ← rereadEntries depth rest
      return (key, value) :: rest

end

/-- Whether a value is read back: its arrays and objects are nested at most so deep, no object repeats a
key, and every number is read back from its numeral. -/
inductive IsLegible : Nat → Json → Prop
  | null {depth : Nat} : IsLegible depth .null
  | bool {depth : Nat} (value : Bool) : IsLegible depth (.bool value)
  | number {depth : Nat} {value : Number} (back : value.IsReadBack) :
      IsLegible depth (.number value)
  | string {depth : Nat} (value : String) : IsLegible depth (.string value)
  | array {depth : Nat} {items : List Json} (each : ∀ item ∈ items, IsLegible depth item) :
      IsLegible (depth + 1) (.array items)
  | object {depth : Nat} {entries : List (String × Json)} (distinct : (Entries.keys entries).Nodup)
      (each : ∀ entry ∈ entries, IsLegible depth entry.2) : IsLegible (depth + 1) (.object entries)

section

variable {depth : Nat} {items : List Json} {entries : List (String × Json)}

@[simp] theorem isLegible_null : IsLegible depth .null := .null

@[simp] theorem isLegible_bool (value : Bool) : IsLegible depth (.bool value) := .bool value

@[simp] theorem isLegible_string (value : String) : IsLegible depth (.string value) := .string value

@[simp] theorem isLegible_number_iff {value : Number} :
    IsLegible depth (.number value) ↔ value.IsReadBack := by
  constructor
  · intro legible
    cases legible with
    | number back => exact back
  · exact .number

@[simp] theorem isLegible_array_iff :
    IsLegible depth (.array items) ↔ 0 < depth ∧ ∀ item ∈ items, IsLegible (depth - 1) item := by
  constructor
  · intro legible
    cases legible with
    | array each => exact ⟨Nat.succ_pos _, each⟩
  · rintro ⟨deep, each⟩
    cases depth with
    | zero => cases deep
    | succ depth => exact .array each

@[simp] theorem isLegible_object_iff :
    IsLegible depth (.object entries) ↔
      0 < depth ∧ (Entries.keys entries).Nodup ∧ ∀ entry ∈ entries, IsLegible (depth - 1) entry.2 := by
  constructor
  · intro legible
    cases legible with
    | object distinct each => exact ⟨Nat.succ_pos _, distinct, each⟩
  · rintro ⟨deep, distinct, each⟩
    cases depth with
    | zero => cases deep
    | succ depth => exact .object distinct each

/-! ## Values that are read back -/

theorem rereadItems_eq_ok_iff {found : List Json} :
    rereadItems depth items = .ok found ↔
      List.Forall₂ (fun item read => reread depth item = .ok read) items found := by
  have same : rereadItems depth items = items.mapM (reread depth) := by
    induction items with
    | nil => rfl
    | cons item items ih => rw [rereadItems, List.mapM_cons, ih]
  rw [same, mapM_eq_ok_iff]

theorem rereadEntries_eq_ok_iff {found : List (String × Json)} :
    rereadEntries depth entries = .ok found ↔
      List.Forall₂ (fun entry read => read.1 = entry.1 ∧ reread depth entry.2 = .ok read.2)
        entries found := by
  induction entries generalizing found with
  | nil => simp [rereadEntries, eq_comm]
  | cons entry entries ih =>
      obtain ⟨key, value⟩ := entry
      simp only [rereadEntries, bind_eq_ok, ih, pure, Except.pure, Except.ok.injEq]
      constructor
      · rintro ⟨read, first, others, rest, rfl⟩
        exact .cons ⟨rfl, first⟩ rest
      · rintro (_ | ⟨⟨rfl, first⟩, rest⟩)
        exact ⟨_, first, _, rest, rfl⟩

theorem keys_of_rereadEntries {found : List (String × Json)}
    (read : rereadEntries depth entries = .ok found) : Entries.keys found = Entries.keys entries := by
  have parts := rereadEntries_eq_ok_iff.mp read
  clear read
  induction parts with
  | nil => rfl
  | cons first _ ih => rw [Entries.keys_cons, Entries.keys_cons, ih, first.1]

theorem get?_of_rereadEntries {found : List (String × Json)}
    (read : rereadEntries depth entries = .ok found) {key : String} {value : Json}
    (given : Entries.get? key entries = some value) :
    ∃ again, reread depth value = .ok again ∧ Entries.get? key found = some again := by
  have parts := rereadEntries_eq_ok_iff.mp read
  clear read
  induction parts with
  | nil => cases given
  | @cons entry again _ _ first _ ih =>
      by_cases same : entry.1 = key
      · rw [Entries.get?, if_pos same] at given
        cases given
        exact ⟨again.2, first.2, by rw [Entries.get?, if_pos (first.1.trans same)]⟩
      · rw [Entries.get?, if_neg same] at given
        obtain ⟨value, reads, found⟩ := ih given
        exact ⟨value, reads, by rw [Entries.get?, if_neg (first.1 ▸ same), found]⟩

/-- Of entries with distinct keys each one counts. -/
theorem reread_object_eq_ok_iff (distinct : (Entries.keys entries).Nodup) {found : Json} :
    reread (depth + 1) (.object entries) = .ok found ↔
      ∃ read, rereadEntries depth entries = .ok read ∧ .object read = found := by
  rw [reread, map_eq_ok]
  refine exists_congr fun read => and_congr_right fun known => ?_
  rw [OrderedMap.lastWrites_of_nodup (keys_of_rereadEntries known ▸ distinct)]

theorem nodup_of_reread (back : reread (depth + 1) (.object entries) = .ok (.object entries)) :
    (Entries.keys entries).Nodup := by
  rw [reread, map_eq_ok] at back
  obtain ⟨found, -, same⟩ := back
  rw [← object.inj same, ← OrderedMap.entries_ofList]
  exact (OrderedMap.ofList found).distinct

end

mutual

/-- The legible values are those that are read back. -/
theorem reread_eq_ok_iff (depth : Nat) :
    ∀ json : Json, reread depth json = .ok json ↔ json.IsLegible depth
  | .null | .bool _ | .string _ => by simp [reread]
  | .number value => by
      simp [reread, map_eq_ok, Number.isReadBack_iff]
  | .array items => by
      cases depth with
      | zero => simp [reread]
      | succ depth =>
          have each : rereadItems depth items = .ok items ↔
              ∀ item ∈ items, item.IsLegible depth := by
            rw [rereadItems_eq_ok_iff, List.forall₂_same,
              forall₂_congr (reread_item_eq_ok_iff depth items)]
          simp [reread, map_eq_ok, each]
  | .object entries => by
      cases depth with
      | zero => simp [reread]
      | succ depth =>
          have each : rereadEntries depth entries = .ok entries ↔
              ∀ entry ∈ entries, entry.2.IsLegible depth := by
            rw [rereadEntries_eq_ok_iff, List.forall₂_same,
              ← forall₂_congr (reread_entry_eq_ok_iff depth entries)]
            simp only [true_and]
          rw [isLegible_object_iff]
          constructor
          · intro back
            have distinct := nodup_of_reread back
            obtain ⟨found, read, same⟩ := (reread_object_eq_ok_iff distinct).mp back
            cases same
            exact ⟨Nat.succ_pos depth, distinct, each.mp read⟩
          · rintro ⟨-, distinct, legible⟩
            exact (reread_object_eq_ok_iff distinct).mpr ⟨_, each.mpr legible, rfl⟩

theorem reread_item_eq_ok_iff (depth : Nat) : ∀ items : List Json, ∀ item ∈ items,
    (reread depth item = .ok item ↔ item.IsLegible depth)
  | [] => fun _ member => absurd member List.not_mem_nil
  | item :: items => List.forall_mem_cons.mpr
      ⟨reread_eq_ok_iff depth item, reread_item_eq_ok_iff depth items⟩

theorem reread_entry_eq_ok_iff (depth : Nat) : ∀ entries : List (String × Json), ∀ entry ∈ entries,
    (reread depth entry.2 = .ok entry.2 ↔ entry.2.IsLegible depth)
  | [] => fun _ member => absurd member List.not_mem_nil
  | (_, json) :: entries => List.forall_mem_cons.mpr
      ⟨reread_eq_ok_iff depth json, reread_entry_eq_ok_iff depth entries⟩

end

end Json

end DocumentSearch
