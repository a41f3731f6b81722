import DocumentSearch.OrderedMap
import Mathlib.Data.List.Basic
import Mathlib.Data.List.Induction
import Mathlib.Data.List.Nodup

/-!
# Writing to ordered maps

What a map holds after any number of insertions is told from the list of insertions alone: every key
once, at the place of its first insertion, with the value of its last one.
-/

namespace DocumentSearch

namespace Entries

variable {α : Type}

/-- Every key that is written once, in the order of the first writes, with the value that is written
last. -/
def lastWrites (writes : List (String × α)) : List (String × α) :=
  (keys writes).eraseDups.filterMap fun key =>
    (get? key writes.reverse).map fun value => (key, value)

theorem keys_put (key : String) (value : α) (entries : List (String × α)) :
    keys (put key value entries) =
      if key ∈ keys entries then keys entries else keys entries ++ [key] := by
  split
  · rename_i present
    exact keys_put_of_mem value present
  · rename_i absent
    rw [put_of_not_mem value absent]
    simp

theorem get?_put (key other : String) (value : α) (entries : List (String × α)) :
    get? other (put key value entries) =
      if key = other then some value else get? other entries := by
  split
  · rename_i same
    rw [← same, get?_put_self]
  · rename_i different
    exact get?_put_of_ne value entries fun equal => different equal.symm

theorem erase_put (key : String) (value : α) (entries : List (String × α)) :
    erase key (put key value entries) = erase key entries := by
  induction entries with
  | nil => simp [put, erase]
  | cons entry rest ih =>
      by_cases same : entry.1 = key
      · simp [put, erase, same]
      · simpa [put, erase, same] using ih

theorem erase_of_not_mem {key : String} {entries : List (String × α)} (absent : key ∉ keys entries) :
    erase key entries = entries := by
  refine List.filter_eq_self.mpr fun entry member => decide_eq_true ?_
  rintro rfl
  exact absent (List.mem_map_of_mem member)

theorem get?_append (key : String) (left right : List (String × α)) :
    get? key (left ++ right) = (get? key left).or (get? key right) := by
  induction left with
  | nil => rfl
  | cons entry rest ih =>
      by_cases same : entry.1 = key
      · simp [get?, same]
      · simp [get?, same, ih]

theorem mem_iff_get?_eq_some {entries : List (String × α)} (distinct : (keys entries).Nodup)
    (key : String) (value : α) : (key, value) ∈ entries ↔ get? key entries = some value := by
  induction entries with
  | nil => simp [get?]
  | cons entry rest ih =>
      obtain ⟨first, found⟩ := entry
      obtain ⟨fresh, restDistinct⟩ := List.nodup_cons.mp distinct
      rw [List.mem_cons, ih restDistinct]
      by_cases same : first = key
      · subst same
        have unfound : get? first rest = none := (get?_eq_none_iff first rest).mpr fresh
        simp [get?, unfound, eq_comm]
      · have other : key ≠ first := fun equal => same equal.symm
        simp [get?, same, other]

theorem filter_of_get?_eq_some {entries : List (String × α)} (distinct : (keys entries).Nodup)
    {key : String} {value : α} (found : get? key entries = some value) :
    entries.filter (fun entry => entry.1 = key) = [(key, value)] := by
  induction entries with
  | nil => cases found
  | cons entry rest ih =>
      obtain ⟨fresh, restDistinct⟩ := List.nodup_cons.mp distinct
      by_cases same : entry.1 = key
      · have others : rest.filter (fun entry => entry.1 = key) = [] := by
          rw [List.filter_eq_nil_iff]
          intro other member
          rw [decide_eq_true_eq, ← same]
          exact fun equal => fresh (equal ▸ List.mem_map_of_mem member)
        simp only [get?, same, if_true, Option.some.injEq] at found
        rw [List.filter_cons_of_pos (by simpa using same), others, ← same, ← found]
      · simp only [get?, same, if_false] at found
        rw [List.filter_cons_of_neg (by simpa using same)]
        exact ih restDistinct found

theorem get?_reverse {entries : List (String × α)} (distinct : (keys entries).Nodup)
    (key : String) : get? key entries.reverse = get? key entries := by
  have reversed : (keys entries.reverse).Nodup := by
    rw [keys, List.map_reverse]
    exact List.nodup_reverse.mpr distinct
  ext value
  rw [← mem_iff_get?_eq_some reversed, ← mem_iff_get?_eq_some distinct, List.mem_reverse]

theorem filterMap_keys {entries : List (String × α)} (distinct : (keys entries).Nodup) :
    ((keys entries).filterMap fun key => (get? key entries).map fun value => (key, value)) =
      entries := by
  induction entries with
  | nil => rfl
  | cons entry rest ih =>
      obtain ⟨fresh, restDistinct⟩ := List.nodup_cons.mp distinct
      have elsewhere : ∀ key ∈ keys rest, get? key (entry :: rest) = get? key rest := by
        intro key member
        have different : entry.1 ≠ key := fun equal => fresh (equal ▸ member)
        simp [get?, different]
      have here : get? entry.1 (entry :: rest) = some entry.2 := by simp [get?]
      rw [keys_cons, List.filterMap_cons_some (by rw [here]; rfl)]
      congr 1
      calc
        ((keys rest).filterMap fun key =>
            (get? key (entry :: rest)).map fun value => (key, value)) =
            (keys rest).filterMap fun key => (get? key rest).map fun value => (key, value) := by
          apply List.filterMap_congr
          intro key member
          rw [elsewhere key member]
        _ = rest := ih restDistinct

/-- Entries with distinct keys are equal when their keys and what is found under them are. -/
theorem eq_of_get? {left right : List (String × α)} (distinct : (keys left).Nodup)
    (sameKeys : keys left = keys right) (sameValues : ∀ key, get? key left = get? key right) :
    left = right := by
  have alsoDistinct : (keys right).Nodup := sameKeys ▸ distinct
  rw [← filterMap_keys distinct, ← filterMap_keys alsoDistinct, sameKeys]
  simp only [sameValues]

end Entries

namespace OrderedMap

open Entries

variable {α : Type}

theorem keys_insert (map : OrderedMap α) (key : String) (value : α) :
    (map.insert key value).keys = if key ∈ map.keys then map.keys else map.keys ++ [key] :=
  keys_put key value map.entries

theorem count_keys_insert (map : OrderedMap α) (key : String) (value : α) :
    (map.insert key value).keys.count key = 1 := by
  have present : key ∈ (map.insert key value).keys := by
    rw [keys_insert]
    split
    · assumption
    · exact List.mem_append_right _ (List.mem_singleton_self key)
  exact List.nodup_iff_count_eq_one.mp (map.insert key value).distinct key present

theorem length_keys (map : OrderedMap α) : map.keys.length = map.size := List.length_map ..

theorem size_insert (map : OrderedMap α) (key : String) (value : α) :
    (map.insert key value).size = map.size + if key ∈ map.keys then 0 else 1 := by
  rw [← length_keys, ← length_keys, keys_insert]
  split
  · rfl
  · exact List.length_append

theorem erase_insert (map : OrderedMap α) (key : String) (value : α) :
    (map.insert key value).erase key = map.erase key :=
  ext (erase_put key value map.entries)

theorem get?_insert (map : OrderedMap α) (key other : String) (value : α) :
    (map.insert key value).get? other = if key = other then some value else map.get? other :=
  get?_put key other value map.entries

theorem get?_erase (map : OrderedMap α) (key other : String) :
    (map.erase key).get? other = if key = other then none else map.get? other := by
  split
  · rename_i same
    rw [← same, get?_erase_self]
  · rename_i different
    exact get?_erase_of_ne map fun equal => different equal.symm

theorem insertAll_append (map : OrderedMap α) (left right : List (String × α)) :
    map.insertAll (left ++ right) = (map.insertAll left).insertAll right :=
  List.foldl_append

theorem mem_entries_iff (map : OrderedMap α) (key : String) (value : α) :
    (key, value) ∈ map.entries ↔ map.get? key = some value :=
  mem_iff_get?_eq_some map.distinct key value

theorem keys_ofList (writes : List (String × α)) :
    (ofList writes).keys = (Entries.keys writes).eraseDups := by
  -- From the last write on, since a map grows at its end.
  induction writes using List.reverseRecOn with
  | nil => rfl
  | append_singleton writes write ih =>
      have written : (ofList (writes ++ [write])).keys =
          Entries.keys (put write.1 write.2 (ofList writes).entries) := by
        rw [ofList, insertAll_append]
        rfl
      have before : Entries.keys (ofList writes).entries = (Entries.keys writes).eraseDups := ih
      rw [written, keys_put, before, keys_append, List.eraseDups_append]
      by_cases present : write.1 ∈ Entries.keys writes
      · simp [present, List.removeAll]
      · simp [present, List.removeAll, List.eraseDups_cons]

/-- What was written last is found, and what was there before where nothing was written. -/
theorem get?_insertAll (map : OrderedMap α) (writes : List (String × α)) (key : String) :
    (map.insertAll writes).get? key = (Entries.get? key writes.reverse).or (map.get? key) := by
  induction writes using List.reverseRecOn with
  | nil => rfl
  | append_singleton writes write ih =>
      have written : (map.insertAll (writes ++ [write])).get? key =
          ((map.insertAll writes).insert write.1 write.2).get? key := by
        rw [insertAll_append]
        rfl
      rw [written, get?_insert, ih, List.reverse_append, Entries.get?_append]
      by_cases same : write.1 = key
      · simp [Entries.get?, same]
      · simp [Entries.get?, same]

theorem get?_ofList (writes : List (String × α)) (key : String) :
    (ofList writes).get? key = Entries.get? key writes.reverse := by
  rw [ofList, get?_insertAll, get?_empty, Option.or_none]

theorem get?_merge (map update : OrderedMap α) (key : String) :
    (map.merge update).get? key = (update.get? key).or (map.get? key) := by
  rw [merge, get?_insertAll, Entries.get?_reverse update.distinct]
  rfl

theorem keys_insertAll_of_nodup (map : OrderedMap α) {writes : List (String × α)}
    (distinct : (Entries.keys writes).Nodup) :
    (map.insertAll writes).keys =
      map.keys ++ (Entries.keys writes).filter fun key => key ∉ map.keys := by
  induction writes using List.reverseRecOn with
  | nil => simp [insertAll]
  | append_singleton writes write ih =>
      rw [keys_append, List.nodup_append] at distinct
      obtain ⟨before, _, apart⟩ := distinct
      have fresh : write.1 ∉ Entries.keys writes := fun member =>
        apart write.1 member write.1 (List.mem_singleton_self _) rfl
      have written : (map.insertAll (writes ++ [write])).keys =
          ((map.insertAll writes).insert write.1 write.2).keys := by
        rw [insertAll_append]
        rfl
      rw [written, keys_insert, ih before, keys_append, List.filter_append]
      by_cases present : write.1 ∈ map.keys
      · simp [present]
      · simp [present, fresh]

theorem keys_merge (map update : OrderedMap α) :
    (map.merge update).keys = map.keys ++ update.keys.filter fun key => key ∉ map.keys :=
  keys_insertAll_of_nodup map update.distinct

/-- Inserting entries in order keeps the first place and the last value of every key. -/
theorem entries_ofList (writes : List (String × α)) :
    (ofList writes).entries = lastWrites writes := by
  rw [lastWrites, ← keys_ofList]
  calc
    (ofList writes).entries =
        (ofList writes).keys.filterMap fun key =>
          (Entries.get? key (ofList writes).entries).map fun value => (key, value) :=
      (filterMap_keys (ofList writes).distinct).symm
    _ = (ofList writes).keys.filterMap fun key =>
          (Entries.get? key writes.reverse).map fun value => (key, value) := by
      apply List.filterMap_congr
      intro key _
      rw [← get?_ofList writes key]
      rfl

theorem ofList_entries (map : OrderedMap α) : ofList map.entries = map := by
  have sameKeys : (ofList map.entries).keys = map.keys := by
    rw [ofList, keys_insertAll_of_nodup empty map.distinct]
    simp [keys, empty]
  refine ext (eq_of_get? (ofList map.entries).distinct sameKeys fun key => ?_)
  exact (get?_ofList map.entries key).trans (get?_reverse map.distinct key)

/-- Writes of distinct keys are kept as they are. -/
theorem lastWrites_of_nodup {writes : List (String × α)} (distinct : (Entries.keys writes).Nodup) :
    lastWrites writes = writes :=
  (entries_ofList writes).symm.trans (congrArg entries (ofList_entries ⟨writes, distinct⟩))

end OrderedMap

end DocumentSearch
