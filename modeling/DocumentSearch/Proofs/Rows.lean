import DocumentSearch.Json.Shape
import DocumentSearch.Proofs.OrderedMap

/-!
# Rows of records

A row holds what a value gives for the fields of a record.  An object gives a row when no field is
given twice and no required one is missing; keys that belong to no field are dropped.  An array gives
its items to the fields in order, and may leave out fields at the end that have defaults.  What was
written for an optional field is read back, as long as it was not written as `null`.
-/

namespace DocumentSearch

namespace Entries

variable {α : Type}

theorem get?_filter_of_pos {accepts : String × α → Bool} {key : String}
    (accepted : ∀ value, accepts (key, value) = true) (entries : List (String × α)) :
    get? key (entries.filter accepts) = get? key entries := by
  induction entries with
  | nil => rfl
  | cons entry rest ih =>
      obtain ⟨other, value⟩ := entry
      by_cases same : other = key
      · subst same
        rw [List.filter_cons_of_pos (accepted value)]
        simp [get?]
      · rw [List.filter_cons]
        split <;> simp [get?, same, ih]

theorem get?_zip {names : List String} (distinct : names.Nodup) (items : List α) {place : Nat}
    {key : String} (listed : names[place]? = some key) :
    get? key (names.zip items) = items[place]? := by
  induction names generalizing items place with
  | nil => simp at listed
  | cons first names ih =>
      obtain ⟨fresh, others⟩ := List.nodup_cons.mp distinct
      cases items with
      | nil => simp [get?]
      | cons item items =>
          cases place with
          | zero =>
              cases listed
              simp [get?]
          | succ place =>
              have member : key ∈ names := List.mem_of_getElem? listed
              have different : first ≠ key := fun same => fresh (same ▸ member)
              rw [List.zip_cons_cons, get?, if_neg different, ih others items listed]
              rfl

end Entries

namespace Json

/-- What a value gives for the field of a record: what stands under the key in an object, and at the
place in an array. -/
def fieldAt? (json : Json) (place : Nat) (key : String) : Option Json :=
  match json with
  | .object entries => Entries.get? key entries
  | .array items => items[place]?
  | _ => none

/-- Whether a value is read as what it is written for, and nothing else is. -/
def Inverts {α : Type} (encode : α → Json) (decode : Json → Option α) : Prop :=
  ∀ json value, decode json = some value ↔ json = encode value

theorem Inverts.back {α : Type} {encode : α → Json} {decode : Json → Option α}
    (inverts : Inverts encode decode) (value : α) : decode (encode value) = some value :=
  (inverts _ value).mpr rfl

theorem inverts_asString? : Inverts .string asString? := by
  intro json value
  cases json <;> simp [asString?]

theorem inverts_asBool? : Inverts .bool asBool? := by
  intro json value
  cases json <;> simp [asBool?]

theorem inverts_some : Inverts (fun json => json) some := fun _ _ => Option.some_inj

theorem asNatBelow?_eq_some_iff {bound value : Nat} {json : Json} :
    json.asNatBelow? bound = some value ↔
      value < bound ∧ ∃ bounded, json = .number (.integer value bounded) := by
  cases json with
  | null | bool _ | string _ | array _ | object _ => simp [asNatBelow?, asInt?]
  | number number =>
      cases number with
      | double _ _ => simp [asNatBelow?, asInt?]
      | integer integer bounded =>
          rw [asNatBelow?, asInt?, Option.ite_none_right_eq_some]
          constructor
          · rintro ⟨⟨nonnegative, below⟩, same⟩
            cases same
            have back : (integer.toNat : Int) = integer := Int.toNat_of_nonneg nonnegative
            refine ⟨by omega, by rwa [back], ?_⟩
            simp only [back]
          · rintro ⟨below, _, same⟩
            cases same
            exact ⟨⟨by omega, by omega⟩, rfl⟩

theorem inverts_asUInt64? : Inverts (fun value => .number (.ofUInt64 value)) asUInt64? := by
  intro json value
  rw [asUInt64?, Option.map_eq_some_iff]
  constructor
  · rintro ⟨number, read, rfl⟩
    obtain ⟨below, bounded, rfl⟩ := asNatBelow?_eq_some_iff.mp read
    have back : (UInt64.ofNat number).toNat = number := UInt64.toNat_ofNat_of_lt' below
    simp only [Number.ofUInt64, back]
  · rintro rfl
    exact ⟨value.toNat, asNatBelow?_eq_some_iff.mpr ⟨value.toNat_lt, _, rfl⟩, UInt64.ofNat_toNat⟩

theorem inverts_asUInt16? : Inverts (fun value => .number (.ofUInt16 value)) asUInt16? := by
  intro json value
  rw [asUInt16?, Option.map_eq_some_iff]
  constructor
  · rintro ⟨number, read, rfl⟩
    obtain ⟨below, bounded, rfl⟩ := asNatBelow?_eq_some_iff.mp read
    have back : (UInt16.ofNat number).toNat = number := UInt16.toNat_ofNat_of_lt' below
    simp only [Number.ofUInt16, back]
  · rintro rfl
    exact ⟨value.toNat, asNatBelow?_eq_some_iff.mpr ⟨value.toNat_lt, _, rfl⟩, UInt16.ofNat_toNat⟩

/-- Whether what is given for an optional field stands for a value, or for none. -/
def StandsFor {α : Type} (encode : α → Json) (given : Option Json) : Option α → Prop
  | none => given = none ∨ given = some .null
  | some value => given = some (encode value) ∧ encode value ≠ .null

namespace Row

variable {α : Type} {fields : List Field} {entries : List (String × Json)} {row : Row} {key : String}

theorem ofEntries?_eq_some_iff :
    ofEntries? fields entries = some row ↔
      entries.filter (fun entry => isKnown fields entry.1) = row ∧ (Entries.keys row).Nodup ∧
        isComplete fields row = true := by
  rw [ofEntries?]
  constructor
  · intro read
    obtain ⟨sound, same⟩ := Option.ite_none_right_eq_some.mp read
    cases same
    exact ⟨rfl, sound⟩
  · rintro ⟨rfl, sound⟩
    exact if_pos sound

theorem ofEntries?_of_isKnown (known : ∀ entry ∈ entries, isKnown fields entry.1 = true)
    (distinct : (Entries.keys entries).Nodup) (complete : isComplete fields entries = true) :
    ofEntries? fields entries = some entries :=
  ofEntries?_eq_some_iff.mpr ⟨List.filter_eq_self.mpr known, distinct, complete⟩

/-- An optional field has no value when it is missing or `null`. -/
theorem optional?_eq_some_none_iff {decode : Json → Option α} :
    row.optional? key decode = some none ↔
      row.given? key = none ∨ row.given? key = some .null := by
  unfold optional?
  split
  · rename_i missing
    exact iff_of_true rfl (.inl missing)
  · rename_i null
    exact iff_of_true rfl (.inr null)
  · rename_i json notNull given
    refine iff_of_false (by simp) ?_
    rw [given]
    rintro (missing | null)
    · cases missing
    · exact notNull (Option.some.inj null)

theorem optional?_eq_some_some_iff {decode : Json → Option α} {value : α} :
    row.optional? key decode = some (some value) ↔
      ∃ json, row.given? key = some json ∧ json ≠ .null ∧ decode json = some value := by
  unfold optional?
  split
  · rename_i missing
    simp [missing]
  · rename_i null
    simp [null]
  · rename_i json notNull given
    rw [Option.map_eq_some_iff]
    constructor
    · rintro ⟨_, decoded, same⟩
      cases same
      exact ⟨json, given, notNull, decoded⟩
    · rintro ⟨_, found, _, decoded⟩
      cases given.symm.trans found
      exact ⟨value, decoded, rfl⟩

/-- An optional field is read back from what is written for it, unless that is `null`. -/
theorem optional?_eq_some_of_given {encode : α → Json} {decode : Json → Option α}
    {held : Option α} (given : row.given? key = held.map encode)
    (written : ∀ value, held = some value →
      encode value ≠ .null ∧ decode (encode value) = some value) :
    row.optional? key decode = some held := by
  cases held with
  | none => exact optional?_eq_some_none_iff.mpr (.inl given)
  | some value => exact optional?_eq_some_some_iff.mpr ⟨_, given, written value rfl⟩

theorem optional?_eq_some_iff {encode : α → Json} {decode : Json → Option α}
    (inverts : Inverts encode decode) {held : Option α} :
    row.optional? key decode = some held ↔ StandsFor encode (row.given? key) held := by
  cases held with
  | none => exact optional?_eq_some_none_iff
  | some value =>
      rw [optional?_eq_some_some_iff]
      constructor
      · rintro ⟨json, given, notNull, decoded⟩
        obtain rfl := (inverts json value).mp decoded
        exact ⟨given, notNull⟩
      · rintro ⟨given, notNull⟩
        exact ⟨_, given, notNull, (inverts _ value).mpr rfl⟩

theorem required?_eq_some_iff {decode : Json → Option α} {value : α} :
    row.required? key decode = some value ↔
      ∃ json, row.given? key = some json ∧ decode json = some value :=
  Option.bind_eq_some_iff

theorem isKnown_iff : isKnown fields key = true ↔ key ∈ fields.map Field.key := by
  simp [isKnown, List.mem_map]

theorem ofEntries?_filter (fields : List Field) (entries : List (String × Json)) :
    ofEntries? fields (entries.filter fun entry => isKnown fields entry.1) =
      ofEntries? fields entries := by
  unfold ofEntries?
  rw [List.filter_filter]
  simp only [Bool.and_self]

theorem ofEntries?_of_keys (keys : Entries.keys entries = fields.map Field.key)
    (distinct : (fields.map Field.key).Nodup) : ofEntries? fields entries = some entries := by
  have listed : ∀ entry ∈ entries, entry.1 ∈ fields.map Field.key := fun entry member =>
    keys ▸ List.mem_map_of_mem member
  refine ofEntries?_of_isKnown ?_ (keys ▸ distinct) ?_
  · intro entry member
    exact isKnown_iff.mpr (listed entry member)
  · refine List.all_eq_true.mpr fun field among => ?_
    have present : field.key ∈ Entries.keys entries := keys ▸ List.mem_map_of_mem among
    simp [present]

/-- An array gives its items to the fields in order; fields that are left over have to have defaults. -/
theorem ofItems?_eq_some_iff {items : List Json} :
    ofItems? fields items = some row ↔
      items.length ≤ fields.length ∧
        (∀ field ∈ fields.drop items.length, field.presence = .defaulted) ∧
        (fields.map Field.key).zip items = row := by
  induction fields generalizing items row with
  | nil => cases items <;> simp [ofItems?, eq_comm]
  | cons field fields ih =>
      cases items with
      | nil =>
          rw [ofItems?, Option.ite_none_right_eq_some, ih]
          simp [and_assoc]
      | cons item items =>
          simp only [ofItems?, Option.map_eq_some_iff, ih]
          simp [and_assoc]

theorem given?_of_ofJson? {json : Json} (distinct : (fields.map Field.key).Nodup)
    (read : ofJson? fields json = some row) {place : Nat}
    (listed : (fields.map Field.key)[place]? = some key) :
    row.given? key = json.fieldAt? place key := by
  cases json with
  | null | bool _ | number _ | string _ => cases read
  | object entries =>
      obtain ⟨rfl, -, -⟩ := ofEntries?_eq_some_iff.mp read
      exact Entries.get?_filter_of_pos
        (fun _ => isKnown_iff.mpr (List.mem_of_getElem? listed)) entries
  | array items =>
      obtain ⟨-, -, rfl⟩ := ofItems?_eq_some_iff.mp read
      exact Entries.get?_zip distinct items listed

/-- An optional field that is read only as it is written stands for what the value gives for it. -/
theorem optional?_iff_standsFor {json : Json} {encode : α → Json} {decode : Json → Option α}
    (inverts : Inverts encode decode) (distinct : (fields.map Field.key).Nodup)
    (read : ofJson? fields json = some row) {place : Nat}
    (listed : (fields.map Field.key)[place]? = some key) {held : Option α} :
    row.optional? key decode = some held ↔ StandsFor encode (json.fieldAt? place key) held := by
  rw [optional?_eq_some_iff inverts, given?_of_ofJson? distinct read listed]

theorem required?_iff_fieldAt? {json : Json} {encode : α → Json} {decode : Json → Option α}
    (inverts : Inverts encode decode) (distinct : (fields.map Field.key).Nodup)
    (read : ofJson? fields json = some row) {place : Nat}
    (listed : (fields.map Field.key)[place]? = some key) {held : α} :
    row.required? key decode = some held ↔ json.fieldAt? place key = some (encode held) := by
  rw [required?_eq_some_iff, given?_of_ofJson? distinct read listed]
  simp only [inverts _ held, exists_eq_right]

/-- An object that has every field once, in order, is a row itself. -/
theorem ofJson?_object_of_keys (keys : Entries.keys entries = fields.map Field.key)
    (distinct : (fields.map Field.key).Nodup) : ofJson? fields (.object entries) = some entries :=
  ofEntries?_of_keys keys distinct

theorem optional?_of_written {encode : α → Json} {decode : Json → Option α} {held : Option α}
    (given : row.given? key = some (ofOption encode held))
    (back : ∀ value, held = some value →
      encode value ≠ .null ∧ decode (encode value) = some value) :
    row.optional? key decode = some held := by
  cases held with
  | none => exact optional?_eq_some_none_iff.mpr (.inr given)
  | some value => exact optional?_eq_some_some_iff.mpr ⟨_, given, back value rfl⟩

/-- Whether a value has the form of a record: an object in which no field is given twice, or an array
with no more items than there are fields. -/
def HasForm (fields : List Field) : Json → Prop
  | .object entries => ∀ key ∈ fields.map Field.key, (Entries.keys entries).count key ≤ 1
  | .array items => items.length ≤ fields.length
  | _ => False

theorem keys_filter_isKnown (fields : List Field) (entries : List (String × Json)) :
    Entries.keys (entries.filter fun entry => isKnown fields entry.1) =
      (Entries.keys entries).filter (isKnown fields) := by
  rw [Entries.keys, Entries.keys, List.filter_map]
  rfl

theorem nodup_keys_filter_iff :
    (Entries.keys (entries.filter fun entry => isKnown fields entry.1)).Nodup ↔
      ∀ key ∈ fields.map Field.key, (Entries.keys entries).count key ≤ 1 := by
  rw [keys_filter_isKnown, List.nodup_iff_count_le_one]
  constructor
  · intro once key listed
    rw [← List.count_filter (isKnown_iff.mpr listed)]
    exact once key
  · intro once key
    by_cases known : isKnown fields key = true
    · rw [List.count_filter known]
      exact once key (isKnown_iff.mp known)
    · have absent : key ∉ (Entries.keys entries).filter (isKnown fields) := fun member =>
        known (List.mem_filter.mp member).2
      rw [List.count_eq_zero_of_not_mem absent]
      exact Nat.zero_le 1

theorem hasForm_of_ofJson? {json : Json} (read : ofJson? fields json = some row) :
    HasForm fields json := by
  cases json with
  | null | bool _ | number _ | string _ => cases read
  | object entries =>
      obtain ⟨rfl, distinct, -⟩ := ofEntries?_eq_some_iff.mp read
      exact nodup_keys_filter_iff.mp distinct
  | array items => exact (ofItems?_eq_some_iff.mp read).1

/-- A value of the right form is a row when it gives every field that has no default. -/
theorem exists_ofJson? {json : Json} (form : HasForm fields json)
    (given : ∀ place field, fields[place]? = some field → field.presence ≠ .defaulted →
      json.fieldAt? place field.key ≠ none) : ∃ row, ofJson? fields json = some row := by
  cases json with
  | null | bool _ | number _ | string _ => exact form.elim
  | object entries =>
      refine ⟨_, ofEntries?_eq_some_iff.mpr ⟨rfl, nodup_keys_filter_iff.mpr form, ?_⟩⟩
      refine List.all_eq_true.mpr fun field listed => ?_
      obtain ⟨place, found⟩ := List.getElem?_of_mem listed
      by_cases required : field.presence = .required
      · have present := given place field found (by simp [required])
        have member : field.key ∈ Entries.keys entries := by
          by_contra absent
          exact present ((Entries.get?_eq_none_iff field.key entries).mpr absent)
        have known := isKnown_iff.mpr (List.mem_map_of_mem listed)
        rw [keys_filter_isKnown]
        simp [member, known]
      · simp [required]
  | array items =>
      refine ⟨_, ofItems?_eq_some_iff.mpr ⟨form, fun field left => ?_, rfl⟩⟩
      obtain ⟨place, found⟩ := List.getElem?_of_mem left
      rw [List.getElem?_drop] at found
      by_contra required
      refine given _ field found required ?_
      exact List.getElem?_eq_none (Nat.le_add_right items.length place)

end Row

end Json

end DocumentSearch
