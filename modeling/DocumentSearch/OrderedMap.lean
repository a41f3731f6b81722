/-!
# Ordered maps

A map from names to values that remembers the order in which its keys were first inserted.
Documents, condition sets, mapping parameters and stored tables are all maps of this kind.

The map is a list of entries together with a proof that no key occurs twice.  Inserting an existing
key replaces its value in place, inserting a new key appends an entry, and erasing a key keeps the
order of the others.  The look-up of every operation is stated beside it.
-/

namespace DocumentSearch

namespace Entries

variable {α : Type}

/-- The keys of a list of entries, in order. -/
def keys (entries : List (String × α)) : List String :=
  entries.map Prod.fst

/-- The value of the first entry with the given key. -/
def get? (key : String) : List (String × α) → Option α
  | [] => none
  | entry :: rest => if entry.1 = key then some entry.2 else get? key rest

/-- Replaces the value of the first entry with the given key in place, or appends a new entry. -/
def put (key : String) (value : α) : List (String × α) → List (String × α)
  | [] => [(key, value)]
  | entry :: rest => if entry.1 = key then (key, value) :: rest else entry :: put key value rest

/-- Removes every entry with the given key. -/
def erase (key : String) (entries : List (String × α)) : List (String × α) :=
  entries.filter fun entry => entry.1 ≠ key

@[simp] theorem keys_nil : keys ([] : List (String × α)) = [] := rfl

@[simp] theorem keys_cons (entry : String × α) (rest : List (String × α)) :
    keys (entry :: rest) = entry.1 :: keys rest := rfl

@[simp] theorem keys_append (left right : List (String × α)) :
    keys (left ++ right) = keys left ++ keys right := by
  simp [keys]

theorem get?_eq_none_iff (key : String) (entries : List (String × α)) :
    get? key entries = none ↔ key ∉ keys entries := by
  induction entries with
  | nil => simp [get?]
  | cons entry rest ih =>
      by_cases same : entry.1 = key
      · simp [get?, same]
      · have other : key ≠ entry.1 := fun equal => same equal.symm
        simp [get?, same, ih, other]

theorem keys_put_of_mem {key : String} (value : α) {entries : List (String × α)}
    (present : key ∈ keys entries) : keys (put key value entries) = keys entries := by
  induction entries with
  | nil => simp at present
  | cons entry rest ih =>
      by_cases same : entry.1 = key
      · simp [put, same]
      · have tail : key ∈ keys rest := by
          rcases List.mem_cons.1 present with equal | tail
          · exact absurd equal.symm same
          · exact tail
        simp [put, same, ih tail]

theorem put_of_not_mem {key : String} (value : α) {entries : List (String × α)}
    (absent : key ∉ keys entries) : put key value entries = entries ++ [(key, value)] := by
  induction entries with
  | nil => rfl
  | cons entry rest ih =>
      have different : entry.1 ≠ key := fun equal => absent (by simp [equal])
      have tail : key ∉ keys rest := fun member => absent (by simp [member])
      simp [put, different, ih tail]

/-- Putting keeps the keys distinct. -/
theorem nodup_put (key : String) (value : α) {entries : List (String × α)}
    (distinct : (keys entries).Nodup) : (keys (put key value entries)).Nodup := by
  by_cases present : key ∈ keys entries
  · rw [keys_put_of_mem value present]
    exact distinct
  · rw [put_of_not_mem value present, keys_append, List.nodup_append]
    refine ⟨distinct, by simp, ?_⟩
    intro left leftMember right rightMember equal
    have : right = key := by simpa using rightMember
    exact present (this ▸ equal ▸ leftMember)

/-- Erasing keeps the keys distinct. -/
theorem nodup_erase (key : String) {entries : List (String × α)}
    (distinct : (keys entries).Nodup) : (keys (erase key entries)).Nodup :=
  distinct.sublist (List.Sublist.map Prod.fst List.filter_sublist)

@[simp] theorem get?_put_self (key : String) (value : α) (entries : List (String × α)) :
    get? key (put key value entries) = some value := by
  induction entries with
  | nil => simp [put, get?]
  | cons entry rest ih =>
      by_cases same : entry.1 = key
      · simp [put, get?, same]
      · simp [put, get?, same, ih]

theorem get?_put_of_ne {key other : String} (value : α) (entries : List (String × α))
    (different : other ≠ key) : get? other (put key value entries) = get? other entries := by
  induction entries with
  | nil => simp [put, get?, different.symm]
  | cons entry rest ih =>
      by_cases same : entry.1 = key
      · simp [put, get?, same, different.symm]
      · simp [put, get?, same, ih]

@[simp] theorem get?_erase_self (key : String) (entries : List (String × α)) :
    get? key (erase key entries) = none := by
  rw [get?_eq_none_iff]
  simp [keys, erase]

theorem get?_erase_of_ne {key other : String} (entries : List (String × α))
    (different : other ≠ key) : get? other (erase key entries) = get? other entries := by
  induction entries with
  | nil => rfl
  | cons entry rest ih =>
      by_cases same : entry.1 = key
      · have apart : key ≠ other := different.symm
        simpa [erase, get?, same, apart] using ih
      · by_cases found : entry.1 = other
        · simp [erase, get?, found, different]
        · simpa [erase, get?, same, found] using ih

end Entries

/-- A map from names to values in the order in which the names were first inserted. -/
structure OrderedMap (α : Type) where
  /-- The entries, oldest first. -/
  entries : List (String × α)
  /-- No key occurs twice. -/
  distinct : (Entries.keys entries).Nodup

namespace OrderedMap

variable {α : Type}

@[ext] theorem ext {left right : OrderedMap α} (same : left.entries = right.entries) :
    left = right := by
  cases left
  cases right
  cases same
  rfl

instance [DecidableEq α] : DecidableEq (OrderedMap α) := fun left right =>
  if same : left.entries = right.entries then isTrue (ext same)
  else isFalse fun equal => same (congrArg entries equal)

instance [Repr α] : Repr (OrderedMap α) where
  reprPrec map level := reprPrec map.entries level

/-- The map without entries. -/
def empty : OrderedMap α := ⟨[], List.nodup_nil⟩

instance : EmptyCollection (OrderedMap α) := ⟨empty⟩

instance : Inhabited (OrderedMap α) := ⟨empty⟩

/-- The keys in order of their first insertion. -/
def keys (map : OrderedMap α) : List String := Entries.keys map.entries

/-- The values in the order of their keys. -/
def values (map : OrderedMap α) : List α := map.entries.map Prod.snd

/-- The number of keys. -/
def size (map : OrderedMap α) : Nat := map.entries.length

/-- Whether the map has no key. -/
def isEmpty (map : OrderedMap α) : Bool := map.entries.isEmpty

/-- The value under a key. -/
def get? (map : OrderedMap α) (key : String) : Option α := Entries.get? key map.entries

/-- Whether the key has a value. -/
def contains (map : OrderedMap α) (key : String) : Bool := (map.get? key).isSome

/-- Sets the value of a key: in place when it is present, at the end otherwise. -/
def insert (map : OrderedMap α) (key : String) (value : α) : OrderedMap α :=
  ⟨Entries.put key value map.entries, Entries.nodup_put key value map.distinct⟩

/-- Removes a key and keeps the order of the others. -/
def erase (map : OrderedMap α) (key : String) : OrderedMap α :=
  ⟨Entries.erase key map.entries, Entries.nodup_erase key map.distinct⟩

/-- Inserts the entries one after the other. -/
def insertAll (map : OrderedMap α) (entries : List (String × α)) : OrderedMap α :=
  entries.foldl (fun built entry => built.insert entry.1 entry.2) map

/-- The map that results from inserting the entries in order: the last value of a key wins and
stands at the first position of the key. -/
def ofList (entries : List (String × α)) : OrderedMap α :=
  empty.insertAll entries

/-- Inserts every entry of another map in its order. -/
def merge (map update : OrderedMap α) : OrderedMap α :=
  map.insertAll update.entries

@[simp] theorem get?_empty (key : String) : (empty : OrderedMap α).get? key = none := rfl

@[simp] theorem get?_insert_self (map : OrderedMap α) (key : String) (value : α) :
    (map.insert key value).get? key = some value :=
  Entries.get?_put_self key value map.entries

@[simp] theorem get?_erase_self (map : OrderedMap α) (key : String) :
    (map.erase key).get? key = none :=
  Entries.get?_erase_self key map.entries

theorem get?_erase_of_ne (map : OrderedMap α) {key other : String} (different : other ≠ key) :
    (map.erase key).get? other = map.get? other :=
  Entries.get?_erase_of_ne map.entries different

theorem entries_insert_of_not_mem {map : OrderedMap α} {key : String} (value : α)
    (absent : key ∉ map.keys) :
    (map.insert key value).entries = map.entries ++ [(key, value)] :=
  Entries.put_of_not_mem value absent

end OrderedMap

end DocumentSearch
