import DocumentSearch.Proofs.Refusals

/-!
# Planned calls

Which call an operation makes, with everything that its arguments and the draft have to satisfy
before it is made.  Laws about calls that were planned are proved by cases on this relation.
-/

namespace DocumentSearch

/-- The calls that operations make on a draft. -/
inductive Operation.Calls (draft : Draft) : {kind : Kind} → Operation kind → Call kind → Prop
  | get {search : Search} (compiled : draft.compile = .ok search) :
      Calls draft .get (.search search)
  | insert {table : String} {document : Document} {record : Record}
      (selected : draft.table = some table) (named : table ≠ "")
      (stored : document.IsStoredAs record) :
      Calls draft (.insert document) (.index ⟨table, record⟩)
  | insertAll {table : String} {documents : List Document} {records : List Record}
      (selected : draft.table = some table) (named : table ≠ "") (several : documents ≠ [])
      (stored : List.Forall₂ Document.IsStoredAs documents records) :
      Calls draft (.insertAll documents) (.bulk ⟨table, records⟩)
  | find {table id : String} (selected : draft.table = some table) (named : table ≠ "")
      (identified : id ≠ "") :
      Calls draft (.find id) (.get ⟨table, id⟩)
  | update {table id : String} {fields : Document} (selected : draft.table = some table)
      (named : table ≠ "") (identified : id ≠ "") (filled : fields.isEmpty = false) :
      Calls draft (.update id fields) (.update ⟨⟨table, id⟩, fields⟩)
  | delete {table id : String} (selected : draft.table = some table) (named : table ≠ "")
      (identified : id ≠ "") :
      Calls draft (.delete id) (.delete ⟨table, id⟩)
  | createTable {table : String} {schema : TableSchema} (named : table ≠ "")
      (typed : schema.properties.isEmpty = false) (fieldsNamed : "" ∉ schema.fieldNames) :
      Calls draft (.createTable table schema) (.createTable table schema)
  | updateTable {table : String} {schema : TableSchema} (named : table ≠ "")
      (typed : schema.properties.isEmpty = false) (fieldsNamed : "" ∉ schema.fieldNames) :
      Calls draft (.updateTable table schema) (.updateMapping table schema)
  | tableInfo {tables : List String} (named : "" ∉ tables) :
      Calls draft (.tableInfo tables) (.getMapping tables)

namespace Operation

variable {kind : Kind} {operation : Operation kind} {draft : Draft} {call : Call kind}

theorem calls_of_plan (planned : operation.plan draft = .ok call) :
    operation.Calls draft call := by
  cases operation with
  | get =>
      obtain ⟨search, compiled, rfl⟩ := map_eq_ok.mp planned
      exact .get compiled
  | insert document =>
      obtain ⟨table, ⟨_, record⟩, selected, built, rfl⟩ := plan_eq_ok_iff.mp planned
      obtain ⟨named, rfl, stored⟩ := Insertion.new_eq_ok_iff.mp built
      exact .insert selected named stored
  | insertAll documents =>
      obtain ⟨table, ⟨_, records⟩, selected, built, rfl⟩ := plan_eq_ok_iff.mp planned
      obtain ⟨named, several, rfl, stored⟩ := Batch.new_eq_ok_iff.mp built
      exact .insertAll selected named several stored
  | find id =>
      obtain ⟨table, _, selected, built, rfl⟩ := plan_eq_ok_iff.mp planned
      obtain ⟨named, identified, rfl⟩ := Address.new_eq_ok_iff.mp built
      exact .find selected named identified
  | update id fields =>
      obtain ⟨table, _, selected, built, rfl⟩ := plan_eq_ok_iff.mp planned
      obtain ⟨named, identified, filled, rfl⟩ := Change.new_eq_ok_iff.mp built
      exact .update selected named identified filled
  | delete id =>
      obtain ⟨table, _, selected, built, rfl⟩ := plan_eq_ok_iff.mp planned
      obtain ⟨named, identified, rfl⟩ := Address.new_eq_ok_iff.mp built
      exact .delete selected named identified
  | createTable table schema =>
      obtain ⟨_, checks, rfl⟩ := map_eq_ok.mp (checked_eq_ok_iff.mp planned)
      obtain ⟨named, typed, fieldsNamed⟩ := checkSchema_eq_ok_iff.mp checks
      exact .createTable named typed fieldsNamed
  | updateTable table schema =>
      obtain ⟨_, checks, rfl⟩ := map_eq_ok.mp (checked_eq_ok_iff.mp planned)
      obtain ⟨named, typed, fieldsNamed⟩ := checkSchema_eq_ok_iff.mp checks
      exact .updateTable named typed fieldsNamed
  | tableInfo tables =>
      by_cases named : "" ∈ tables
      · simp [plan, named] at planned
      · simp only [plan, List.any_eq_true, decide_eq_true_eq, exists_eq_right, named, if_false,
          Except.ok.injEq] at planned
        subst planned
        exact .tableInfo named

/-- An operation has a plan exactly when it makes a call, and then it plans this call. -/
theorem plan_eq_ok_iff_calls : operation.plan draft = .ok call ↔ operation.Calls draft call := by
  refine ⟨calls_of_plan, fun calls => ?_⟩
  cases calls with
  | get compiled => exact map_eq_ok.mpr ⟨_, compiled, rfl⟩
  | insert selected named stored =>
      exact plan_eq_ok_iff.mpr
        ⟨_, _, selected, Insertion.new_eq_ok_iff.mpr ⟨named, rfl, stored⟩, rfl⟩
  | insertAll selected named several stored =>
      exact plan_eq_ok_iff.mpr
        ⟨_, _, selected, Batch.new_eq_ok_iff.mpr ⟨named, several, rfl, stored⟩, rfl⟩
  | find selected named identified | delete selected named identified =>
      exact plan_eq_ok_iff.mpr
        ⟨_, _, selected, Address.new_eq_ok_iff.mpr ⟨named, identified, rfl⟩, rfl⟩
  | update selected named identified filled =>
      exact plan_eq_ok_iff.mpr
        ⟨_, _, selected, Change.new_eq_ok_iff.mpr ⟨named, identified, filled, rfl⟩, rfl⟩
  | createTable named typed fieldsNamed | updateTable named typed fieldsNamed =>
      exact checked_eq_ok_iff.mpr
        (map_eq_ok.mpr ⟨(), checkSchema_eq_ok_iff.mpr ⟨named, typed, fieldsNamed⟩, rfl⟩)
  | tableInfo named => simp [plan, named]

end Operation

end DocumentSearch
