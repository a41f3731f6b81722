import DocumentSearch.Proofs.Rows
import DocumentSearch.Schema.FieldMapping

/-!
# Field mappings in written form

A mapping is written by its type and its parameters, in two forms.  The forms agree as long as no
parameter is called like the key of the type; such a parameter stands beside the type in the flat form
and in its place in the merged one.  A mapping that was read never has such a parameter, so reading and
writing it loses nothing.
-/

namespace DocumentSearch

namespace FieldType

theorem ofKnownName?_eq_some_iff {name : String} {type : FieldType} :
    ofKnownName? name = some type ↔ type ∈ known ∧ type.name = name := by
  have unique : ∀ type ∈ known, ofKnownName? type.name = some type := by decide
  constructor
  · intro found
    exact ⟨List.mem_of_find?_eq_some found, by simpa using List.find?_some found⟩
  · rintro ⟨listed, rfl⟩
    exact unique type listed

theorem ofName_cases (name : String) :
    (ofName name ∈ known ∧ (ofName name).name = name) ∨
      ofName name = .other name ∧ name ∉ known.map FieldType.name := by
  unfold ofName
  cases found : ofKnownName? name with
  | some type => exact .inl (ofKnownName?_eq_some_iff.mp found)
  | none =>
      refine .inr ⟨rfl, fun listed => ?_⟩
      obtain ⟨type, member, named⟩ := List.mem_map.mp listed
      cases found.symm.trans (ofKnownName?_eq_some_iff.mpr ⟨member, named⟩)

theorem name_ofName (name : String) : (ofName name).name = name := by
  obtain ⟨-, named⟩ | ⟨kept, -⟩ := ofName_cases name
  · exact named
  · rw [kept, FieldType.name]

/-- A type is given by its name, and a known one by an object as well, with the name over `null`. -/
inductive IsGivenBy : Json → String → Prop
  | name (name : String) : IsGivenBy (.string name) name
  | key (name : String) (known : name ∈ known.map FieldType.name) :
      IsGivenBy (.object [(name, .null)]) name

/-- Every spelling of a name is read as the type with this name. -/
theorem ofJson?_eq_some_iff {json : Json} {type : FieldType} :
    ofJson? json = some type ↔ ∃ name, IsGivenBy json name ∧ ofName name = type := by
  constructor
  · intro read
    unfold ofJson? at read
    split at read
    · rename_i name
      exact ⟨name, .name name, Option.some.inj read⟩
    · rename_i name
      obtain ⟨listed, named⟩ := ofKnownName?_eq_some_iff.mp read
      exact ⟨name, .key name (named ▸ List.mem_map_of_mem listed), by rw [ofName, read]; rfl⟩
    · cases read
  · rintro ⟨name, given, rfl⟩
    cases given with
    | name => rfl
    | key _ listed =>
        obtain ⟨type, member, named⟩ := List.mem_map.mp listed
        have found := ofKnownName?_eq_some_iff.mpr ⟨member, named⟩
        rw [ofJson?, ofName, found]
        rfl

end FieldType

namespace FieldMapping

/-- One setting of a parameter. -/
inductive Change
  | analyzer (name : String)
  | param (key : String) (value : Json)

namespace Change

/-- The parameter that is set, and its value. -/
def entry : Change → String × Json
  | .analyzer name => ("analyzer", .string name)
  | .param key value => (key, value)

/-- The mapping after a setting. -/
def apply (mapping : FieldMapping) : Change → FieldMapping
  | .analyzer name => mapping.withAnalyzer name
  | .param key value => mapping.withParam key value

end Change

/-- The mapping of a type after settings in order. -/
def built (type : FieldType) (changes : List Change) : FieldMapping :=
  changes.foldl Change.apply (ofType type)

/-- Whether the two written forms are the same object, in which no key occurs twice and the type stands
under its key. -/
def FormsAgree (mapping : FieldMapping) : Prop :=
  ∃ merged flat, mapping.toJson = .object merged ∧ mapping.toFlatJson = .object flat ∧
    (Entries.keys merged).Nodup ∧ (Entries.keys flat).Nodup ∧
    (∀ key, Entries.get? key merged = Entries.get? key flat) ∧
    Entries.get? typeKey merged = some (.string mapping.type.name)

theorem apply_eq (mapping : FieldMapping) (change : Change) :
    change.apply mapping =
      ⟨mapping.type, mapping.params.insert change.entry.1 change.entry.2⟩ := by
  cases change <;> rfl

theorem foldl_apply (mapping : FieldMapping) (changes : List Change) :
    changes.foldl Change.apply mapping =
      ⟨mapping.type, mapping.params.insertAll (changes.map Change.entry)⟩ := by
  induction changes generalizing mapping with
  | nil => rfl
  | cons change rest ih =>
      rw [List.foldl_cons, ih, apply_eq]
      rfl

theorem built_eq (type : FieldType) (changes : List Change) :
    built type changes = ⟨type, OrderedMap.ofList (changes.map Change.entry)⟩ :=
  foldl_apply (ofType type) changes

theorem mem_keys_params_built_iff {type : FieldType} {changes : List Change} {key : String} :
    key ∈ (built type changes).params.keys ↔ ∃ change ∈ changes, change.entry.1 = key := by
  rw [built_eq, OrderedMap.keys_ofList, List.mem_eraseDups]
  simp [Entries.keys]

/-- In the merged form the type comes first, and a parameter with its key takes its place. -/
theorem entries_toMap (mapping : FieldMapping) :
    mapping.toMap.entries =
      (typeKey, (mapping.params.get? typeKey).getD mapping.type.toJson) ::
        Entries.erase typeKey mapping.params.entries := by
  have others : Entries.keys (Entries.erase typeKey mapping.params.entries) =
      mapping.params.keys.filter fun key => key ≠ typeKey := by
    rw [Entries.erase, Entries.keys, OrderedMap.keys, Entries.keys, List.filter_map]
    rfl
  refine Entries.eq_of_get? mapping.toMap.distinct ?_ fun key => ?_
  · refine (OrderedMap.keys_merge _ mapping.params).trans ?_
    rw [Entries.keys_cons, others]
    simp [OrderedMap.keys, OrderedMap.insert, OrderedMap.empty, Entries.put]
  · refine (OrderedMap.get?_merge _ mapping.params key).trans ?_
    rw [OrderedMap.get?_insert, OrderedMap.get?_empty, Entries.get?]
    by_cases same : typeKey = key
    · subst same
      cases mapping.params.get? typeKey <;> simp
    · rw [if_neg same, if_neg same, Option.or_none]
      exact (Entries.get?_erase_of_ne mapping.params.entries (Ne.symm same)).symm

theorem toJson_eq_toFlatJson {mapping : FieldMapping} (absent : typeKey ∉ mapping.params.keys) :
    mapping.toJson = mapping.toFlatJson := by
  have unset : mapping.params.get? typeKey = none :=
    (Entries.get?_eq_none_iff typeKey mapping.params.entries).mpr absent
  rw [toJson, Json.ofMap, entries_toMap, unset, Entries.erase_of_not_mem absent]
  rfl

theorem formsAgree_iff {mapping : FieldMapping} :
    mapping.FormsAgree ↔ typeKey ∉ mapping.params.keys := by
  constructor
  · rintro ⟨_, flat, _, written, _, distinct, _⟩
    cases written
    exact (List.nodup_cons.mp distinct).1
  · intro absent
    have distinct : (Entries.keys ((typeKey, mapping.type.toJson) :: mapping.params.entries)).Nodup :=
      List.nodup_cons.mpr ⟨absent, mapping.params.distinct⟩
    exact ⟨_, _, toJson_eq_toFlatJson absent, rfl, distinct, distinct, fun _ => rfl, if_pos rfl⟩

/-- A type with settings in any order has these settings as parameters, each key where it was set first
and with the value that was set last.  Its two written forms agree exactly when no parameter was set
under the key of the type, and then they are the same with the same order.  Such a parameter takes the
place of the type in the merged form, while the flat form has the key twice. -/
theorem forms_agree_iff (type : FieldType) (changes : List Change) :
    let mapping := built type changes
    let writes := changes.map Change.entry
    mapping.type = type ∧
    mapping.params.entries = Entries.lastWrites writes ∧
    (mapping.FormsAgree ↔ ∀ change ∈ changes, change.entry.1 ≠ typeKey) ∧
    (mapping.FormsAgree → mapping.toJson = mapping.toFlatJson) ∧
    ∀ value, Entries.get? typeKey writes.reverse = some value →
      mapping.toJson =
        .object ((typeKey, value) :: Entries.erase typeKey (Entries.lastWrites writes)) ∧
      mapping.toFlatJson =
        .object ((typeKey, .string type.name) :: Entries.lastWrites writes) ∧
      (typeKey, value) ∈ Entries.lastWrites writes := by
  intro mapping writes
  have made : mapping = ⟨type, OrderedMap.ofList writes⟩ := built_eq type changes
  have params : mapping.params.entries = Entries.lastWrites writes := by
    rw [made]
    exact OrderedMap.entries_ofList writes
  refine ⟨by rw [made], params, ?_, fun agree => toJson_eq_toFlatJson (formsAgree_iff.mp agree), ?_⟩
  · rw [formsAgree_iff, mem_keys_params_built_iff]
    simp only [not_exists, not_and, ne_eq]
  · intro value set
    have found : mapping.params.get? typeKey = some value := by
      rw [made]
      exact (OrderedMap.get?_ofList writes typeKey).trans set
    refine ⟨?_, ?_, ?_⟩
    · rw [toJson, Json.ofMap, entries_toMap, found, params]
      rfl
    · rw [toFlatJson, params, made]
      rfl
    · rw [← params, OrderedMap.mem_entries_iff]
      exact found

/-- A text field with a parameter called `type` is sent as a keyword field, while its flat form names
both types. -/
theorem not_formsAgree_of_type :
    let mapping := built .text [.param "type" (.string "keyword")]
    mapping.toJson = .object [("type", .string "keyword")] ∧
    mapping.toFlatJson = .object [("type", .string "text"), ("type", .string "keyword")] ∧
    ¬mapping.FormsAgree := by
  refine ⟨by decide, by decide, ?_⟩
  rw [formsAgree_iff]
  decide

theorem ofJson?_eq_some_iff {json : Json} {mapping : FieldMapping} :
    ofJson? json = some mapping ↔ ∃ entries, json = .object entries ∧
      (Entries.keys entries).count typeKey ≤ 1 ∧
      (∃ given, Entries.get? typeKey entries = some given ∧
        FieldType.ofJson? given = some mapping.type) ∧
      mapping.params = OrderedMap.ofList (Entries.erase typeKey entries) := by
  have distinct : (fields.map Json.Field.key).Nodup := List.nodup_singleton typeKey
  have first : (fields.map Json.Field.key)[0]? = some typeKey := rfl
  have given {entries : List (String × Json)} {row : Json.Row}
      (rowRead : Json.Row.ofJson? fields (.object entries) = some row) :
      row.given? typeKey = Entries.get? typeKey entries :=
    Json.Row.given?_of_ofJson? distinct rowRead first
  constructor
  · intro read
    cases json with
    | null | bool _ | number _ | string _ | array _ => cases read
    | object entries =>
        simp only [ofJson?, Option.bind_eq_bind, Option.bind_eq_some_iff] at read
        obtain ⟨row, rowRead, type, typeRead, same⟩ := read
        cases same
        obtain ⟨json, found, decoded⟩ := Json.Row.required?_eq_some_iff.mp typeRead
        have form : Json.Row.HasForm fields (.object entries) := Json.Row.hasForm_of_ofJson? rowRead
        exact ⟨entries, rfl, form typeKey (List.mem_singleton_self _),
          ⟨json, (given rowRead).symm.trans found, decoded⟩, rfl⟩
  · rintro ⟨entries, rfl, once, ⟨json, found, decoded⟩, params⟩
    have form : Json.Row.HasForm fields (.object entries) := List.forall_mem_singleton.mpr once
    have filled : ∀ place field, fields[place]? = some field → field.presence ≠ .defaulted →
        Json.fieldAt? (.object entries) place field.key ≠ none := by
      intro place field listed _
      rw [List.mem_singleton.mp (List.mem_of_getElem? listed)]
      exact found.trans_ne (Option.some_ne_none json)
    obtain ⟨row, rowRead⟩ := Json.Row.exists_ofJson? form filled
    simp only [ofJson?, Option.bind_eq_bind, Option.bind_eq_some_iff]
    refine ⟨row, rowRead, mapping.type, ?_, ?_⟩
    · exact Json.Row.required?_eq_some_iff.mpr ⟨json, (given rowRead).trans found, decoded⟩
    · rw [← params]
      rfl

/-- A mapping that was read has no parameter that is called like the key of the type. -/
theorem typeKey_not_mem_params {json : Json} {mapping : FieldMapping}
    (read : ofJson? json = some mapping) : typeKey ∉ mapping.params.keys := by
  obtain ⟨entries, -, -, -, params⟩ := ofJson?_eq_some_iff.mp read
  rw [params, OrderedMap.keys_ofList, List.mem_eraseDups, ← Entries.get?_eq_none_iff]
  exact Entries.get?_erase_self typeKey entries

/-- A mapping whose type is read from its name and whose parameters leave the key of the type alone is
read back from its merged form. -/
theorem ofJson?_toJson {mapping : FieldMapping}
    (named : FieldType.ofName mapping.type.name = mapping.type)
    (absent : typeKey ∉ mapping.params.keys) : ofJson? mapping.toJson = some mapping := by
  have unlisted : typeKey ∉ Entries.keys mapping.params.entries := absent
  rw [toJson_eq_toFlatJson absent]
  refine ofJson?_eq_some_iff.mpr ⟨_, rfl, ?_, ⟨_, if_pos rfl, ?_⟩, ?_⟩
  · refine Nat.le_of_eq ?_
    rw [Entries.keys_cons, List.count_cons_self, List.count_eq_zero_of_not_mem unlisted]
  · exact FieldType.ofJson?_eq_some_iff.mpr ⟨_, .name mapping.type.name, named⟩
  · have kept : Entries.erase typeKey ((typeKey, mapping.type.toJson) :: mapping.params.entries) =
        mapping.params.entries := by
      rw [← Entries.erase_of_not_mem unlisted]
      simp [Entries.erase]
    rw [kept, OrderedMap.ofList_entries]

/-- A mapping that is read from an object is sent as an object with the same keys.  The type comes
first, as the name under which it was given, whether as a text or as a key over `null`, and wherever it
stood; the other keys follow in their order with their values, a repeated one at its first place with
its last value.  The mapping is read back from what is sent, and its type is kept by name only when no
known type has this name. -/
theorem decoded_passed_through {json : Json} {mapping : FieldMapping}
    (read : ofJson? json = some mapping) :
    ∃ entries given name, json = .object entries ∧
      (Entries.keys entries).count typeKey = 1 ∧
      Entries.get? typeKey entries = some given ∧ FieldType.IsGivenBy given name ∧
      mapping.toJson = .object ((typeKey, .string name) ::
        Entries.lastWrites (Entries.erase typeKey entries)) ∧
      ((Entries.keys entries).Nodup →
        Entries.lastWrites (Entries.erase typeKey entries) = Entries.erase typeKey entries) ∧
      ofJson? mapping.toJson = some mapping ∧
      mapping.type.name = name ∧
      ∀ other, mapping.type = .other other → other ∉ FieldType.known.map FieldType.name := by
  have absent := typeKey_not_mem_params read
  obtain ⟨entries, rfl, once, ⟨given, found, decoded⟩, params⟩ := ofJson?_eq_some_iff.mp read
  obtain ⟨name, given, typed⟩ := FieldType.ofJson?_eq_some_iff.mp decoded
  have named : mapping.type.name = name := by rw [← typed, FieldType.name_ofName]
  have written : mapping.params.entries = Entries.lastWrites (Entries.erase typeKey entries) := by
    rw [params, OrderedMap.entries_ofList]
  refine ⟨entries, _, name, rfl, ?_, found, given, ?_, ?_, ?_, named, ?_⟩
  · refine Nat.le_antisymm once (List.one_le_count_iff.mpr ?_)
    by_contra missing
    cases ((Entries.get?_eq_none_iff typeKey entries).mpr missing).symm.trans found
  · rw [toJson_eq_toFlatJson absent, toFlatJson, written, FieldType.toJson, named]
  · exact fun distinct =>
      OrderedMap.lastWrites_of_nodup (Entries.nodup_erase typeKey distinct)
  · exact ofJson?_toJson (by rw [named, typed]) absent
  · rintro other kept
    rw [kept] at typed
    obtain ⟨listed, -⟩ | ⟨same, unlisted⟩ := FieldType.ofName_cases name
    · rw [typed] at listed
      simp [FieldType.known] at listed
    · cases typed.symm.trans same
      exact unlisted

/-- A date that is named by a key over `null`, behind its format. -/
def datedEntries : List (String × Json) :=
  [("format", .string "yyyy"), ("type", .object [("date", .null)])]

/-- The type is sent in front, by its name alone. -/
theorem decoded_passed_through_datedEntries :
    ∃ mapping, ofJson? (.object datedEntries) = some mapping ∧ mapping.type = .date ∧
      mapping.toJson = .object [("type", .string "date"), ("format", .string "yyyy")] ∧
      ofJson? mapping.toJson = some mapping := by
  have read : ofJson? (.object datedEntries) =
      some ⟨.date, OrderedMap.ofList [("format", .string "yyyy")]⟩ := by decide
  obtain ⟨_, _, _, same, _, _, _, sent, ordered, back, rfl, _⟩ := decoded_passed_through read
  cases same
  rw [ordered (by decide)] at sent
  exact ⟨_, read, rfl, sent, back⟩

end FieldMapping

end DocumentSearch
