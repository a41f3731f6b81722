import DocumentSearch.Proofs.Batches

/-!
# What writes report

A write says of each of its documents what became of it: it was `created`, or it was `updated`, which
means that it took the place of another one.  A single insertion says what happened.  A batch calls
every document created, also one that comes to an address in use.  So the answer to a batch is true
exactly when its documents come to addresses of their own that were free before, and only then does
the table grow by one for each document that is called created.
-/

namespace DocumentSearch

namespace Store

/-- What becomes of a document that comes to an address: it is new there, or it takes the place of
another one. -/
def outcome (store : Store) (address : Address) : String :=
  if store.find? address = none then "created" else "updated"

/-- The store after the given number of documents of a batch. -/
def midway (store : Store) (batch : Batch) (count : Nat) : Store :=
  (putAll batch.table (batch.records.take count) store).2

/-- Whether a store is left when a record is stored in a table of another one, under an identifier
which is the record's own if it gives one.  The table grows if the identifier was free. -/
structure Keeps (before : Store) (table : String) (record : Record) (id : String)
    (after : Store) : Prop where
  given : ∀ chosen, record.id = some chosen → id = chosen
  found : ∀ address, after.find? address =
    if ⟨table, id⟩ = address then some record.body else before.find? address
  count : after.documentCount table =
    before.documentCount table + if before.find? ⟨table, id⟩ = none then 1 else 0

end Store

/-- Whether the answer to a batch that came to a store says of each document what became of it when
its turn came. -/
def BulkReport.IsTrueOf (report : BulkReport) (batch : Batch) (store : Store) : Prop :=
  ∀ position item, report.itemReports[position]? = some item →
    ∃ id, item.id = some id ∧
      item.result = some ((store.midway batch position).outcome ⟨batch.table, id⟩)

namespace Store

/-! ## Single documents -/

theorem outcome_eq_created_iff {store : Store} {address : Address} :
    store.outcome address = "created" ↔ store.find? address = none := by
  unfold outcome
  split <;> simp [*]

theorem created_put_iff {store : Store} {table : String} {record : Record} :
    (store.put table record).1.created = true ↔
      store.find? ⟨table, (store.put table record).1.id⟩ = none := by
  obtain ⟨id | id, body⟩ := record <;> exact Option.isNone_iff_eq_none

theorem keeps_put (store : Store) (table : String) (record : Record) :
    store.Keeps table record (store.put table record).1.id (store.put table record).2 where
  given := by
    obtain ⟨id, body⟩ := record
    rintro chosen ⟨⟩
    rfl
  found := store.find?_put table record
  count := by
    obtain ⟨id | id, body⟩ := record
    · exact documentCount_putAt store.nextId.2 ⟨table, store.nextId.1⟩ body
    · exact documentCount_putAt store ⟨table, id⟩ body

theorem answer_index (insertion : Insertion) (store : Store) :
    store.answer (.index insertion) =
      (.ok ((store.put insertion.table insertion.record).1.report insertion.table),
        (store.put insertion.table insertion.record).2) :=
  rfl

/-! ## Documents in order -/

/-- What is told of the document at a position of a batch is what storing it did when the documents
before it were stored. -/
theorem getElem?_putAll (table : String) (records : List Record) (store : Store) (position : Nat) :
    (putAll table records store).1[position]? = records[position]?.map fun record =>
      ((putAll table (records.take position) store).2.put table record).1 := by
  induction records generalizing store position with
  | nil => rfl
  | cons record rest ih =>
      cases position with
      | zero => rfl
      | succ position => exact ih (store.put table record).2 position

theorem midway_succ {store : Store} {batch : Batch} {position : Nat} {record : Record}
    (listed : batch.records[position]? = some record) :
    store.midway batch (position + 1) =
      ((store.midway batch position).put batch.table record).2 := by
  obtain ⟨table, records⟩ := batch
  induction records generalizing store position with
  | nil => cases listed
  | cons first rest ih =>
      cases position with
      | zero =>
          cases listed
          rfl
      | succ position => exact ih listed

theorem documentCount_putAll (table : String) (records : List Record) (store : Store) :
    (putAll table records store).2.documentCount table =
      store.documentCount table + (putAll table records store).1.countP Stored.created := by
  induction records generalizing store with
  | nil => rfl
  | cons record rest ih =>
      have first := (store.keeps_put table record).count
      simp only [← created_put_iff] at first
      calc
        (putAll table (record :: rest) store).2.documentCount table
        _ = (store.put table record).2.documentCount table +
            (putAll table rest (store.put table record).2).1.countP Stored.created := ih _
        _ = store.documentCount table +
            (putAll table (record :: rest) store).1.countP Stored.created := by
          rw [first, putAll, List.countP_cons]
          omega

/-- All documents of a batch are new exactly when they get identifiers of their own and none of these
was in use before. -/
theorem all_created_putAll_iff (table : String) (records : List Record) (store : Store) :
    (∀ stored ∈ (putAll table records store).1, stored.created = true) ↔
      ((putAll table records store).1.map Stored.id).Nodup ∧
        ∀ stored ∈ (putAll table records store).1, store.find? ⟨table, stored.id⟩ = none := by
  induction records generalizing store with
  | nil => simp [putAll]
  | cons record rest ih =>
      have later : ∀ id, (store.put table record).2.find? ⟨table, id⟩ = none ↔
          (store.put table record).1.id ≠ id ∧ store.find? ⟨table, id⟩ = none := by
        intro id
        rw [find?_put]
        split <;> simp_all
      simp only [putAll, List.forall_mem_cons, List.map_cons, List.nodup_cons, ih, later,
        created_put_iff, List.mem_map, forall_and]
      grind

end Store

/-! ## Answers to batches -/

namespace BulkReport

open Store (putAll bulkItem)

/-- The answer that a store gives to a batch. -/
abbrev ofBatch (batch : Batch) (store : Store) : BulkReport :=
  ⟨0, false, (putAll batch.table batch.records store).1.map (bulkItem batch.table)⟩

/-- As every document is called created, the answer is true when they all are. -/
theorem isTrueOf_iff_all_created (batch : Batch) (store : Store) :
    (ofBatch batch store).IsTrueOf batch store ↔
      ∀ stored ∈ (putAll batch.table batch.records store).1, stored.created = true := by
  have told : ∀ position stored, (putAll batch.table batch.records store).1[position]? = some stored →
      (stored.created = true ↔
        (store.midway batch position).outcome ⟨batch.table, stored.id⟩ = "created") := by
    intro position stored listed
    rw [Store.getElem?_putAll, Option.map_eq_some_iff] at listed
    obtain ⟨record, _, rfl⟩ := listed
    rw [Store.outcome_eq_created_iff]
    exact Store.created_put_iff
  simp only [IsTrueOf, itemReports_bulkItem, List.getElem?_map, Option.map_eq_some_iff]
  constructor
  · intro claimed stored member
    obtain ⟨position, listed⟩ := List.mem_iff_getElem?.mp member
    obtain ⟨id, same, outcome⟩ := claimed position _ ⟨stored, listed, rfl⟩
    cases same
    exact (told position stored listed).mpr (Option.some.inj outcome).symm
  · rintro all position _ ⟨stored, listed, rfl⟩
    have created := (told position stored listed).mp (all stored (List.mem_of_getElem? listed))
    exact ⟨stored.id, rfl, congrArg some created.symm⟩

/-- The answer is true exactly when the identifiers in it are distinct and none was in use. -/
theorem isTrueOf_iff_distinct (batch : Batch) (store : Store) :
    (ofBatch batch store).IsTrueOf batch store ↔
      ((ofBatch batch store).itemReports.map ItemReport.id).Nodup ∧
        ∀ item ∈ (ofBatch batch store).itemReports, ∀ id, item.id = some id →
          store.find? ⟨batch.table, id⟩ = none := by
  have ids : (ofBatch batch store).itemReports.map ItemReport.id =
      ((putAll batch.table batch.records store).1.map Store.Stored.id).map some := by
    rw [itemReports_bulkItem, List.map_map, List.map_map]
    rfl
  rw [isTrueOf_iff_all_created, Store.all_created_putAll_iff, ids,
    List.nodup_map_iff fun _ _ => Option.some.inj, itemReports_bulkItem, List.forall_mem_map]
  simp only [Option.some.injEq, forall_eq']

/-- The answer is true exactly when the table grows by one for each document that it calls created. -/
theorem isTrueOf_iff_grown (batch : Batch) (store : Store) :
    (ofBatch batch store).IsTrueOf batch store ↔
      (store.midway batch batch.records.length).documentCount batch.table =
        store.documentCount batch.table +
          (ofBatch batch store).itemReports.countP fun item => item.result = some "created" := by
  have called : ((ofBatch batch store).itemReports.countP fun item => item.result = some "created") =
      (putAll batch.table batch.records store).1.length := by
    rw [itemReports_bulkItem, List.countP_map, List.countP_eq_length]
    exact fun _ _ => rfl
  rw [isTrueOf_iff_all_created, Store.midway, List.take_length, Store.documentCount_putAll, called,
    Nat.add_left_cancel_iff, List.countP_eq_length]

end BulkReport

namespace Recorder

variable {recorder next : Recorder}

theorem answer_eq_ok {kind : Kind} {call : Call kind} {answer : kind.Answer}
    (answered : recorder.answer call = (.ok answer, next)) :
    recorder.failure = none ∧ recorder.store.answer call = (.ok answer, next.store) := by
  cases due : recorder.failure with
  | some failure =>
      rw [answer_of_failure due] at answered
      cases congrArg Prod.fst answered
  | none =>
      rw [answer_of_none due] at answered
      obtain ⟨given, left⟩ := Prod.mk.inj answered
      exact ⟨rfl, Prod.ext given (congrArg Recorder.store left)⟩

/-- A write succeeds exactly when no failure is planned, as the store takes any document. -/
theorem exists_answer_eq_ok_iff {kind : Kind} {call : Call kind}
    (taken : (recorder.store.answer call).1.isOk = true) :
    (∃ answer next, recorder.answer call = (.ok answer, next)) ↔ recorder.failure = none := by
  constructor
  · rintro ⟨answer, next, answered⟩
    exact (answer_eq_ok answered).1
  · intro unplanned
    obtain ⟨answer, result⟩ := exists_eq_ok_of_isOk taken
    rw [answer_of_none unplanned, result]
    exact ⟨answer, _, rfl⟩

theorem index_report {insertion : Insertion} {report : WriteReport}
    (answered : recorder.answer (.index insertion) = (.ok report, next)) :
    recorder.store.Keeps insertion.table insertion.record report.id next.store ∧
      report.index = insertion.table ∧
      report.result = recorder.store.outcome ⟨insertion.table, report.id⟩ := by
  have stored := (answer_eq_ok answered).2
  rw [Store.answer_index] at stored
  obtain ⟨reported, left⟩ := Prod.mk.inj stored
  cases reported
  rw [← left]
  refine ⟨Store.keeps_put .., rfl, ?_⟩
  simp only [Store.Stored.report, Store.created_put_iff, Store.outcome]

/-- A batch is answered as its store answers it, and the store is left as all its documents leave
it. -/
theorem bulk_report {batch : Batch} {report : BulkReport}
    (answered : recorder.answer (.bulk batch) = (.ok report, next)) :
    report = BulkReport.ofBatch batch recorder.store ∧
      next.store = recorder.store.midway batch batch.records.length := by
  have stored := (answer_eq_ok answered).2
  rw [Store.answer_bulk] at stored
  obtain ⟨reported, left⟩ := Prod.mk.inj stored
  cases reported
  refine ⟨rfl, ?_⟩
  rw [Store.midway, List.take_length, left]

/-- A write on any recorder succeeds exactly when no failure is planned.  A single insertion then
stores its document under the identifier that it reports, and reports `created` when none was found
there and `updated` otherwise; the table grows by one exactly when it reports `created`.  A batch does
the same with one document after the other, but reports `created` for each.  So what it reports is
true exactly when the reported identifiers are distinct and none of them was in use before, and this
is when the table grows by as many documents as are called created. -/
theorem write_reports_true_iff (recorder : Recorder) :
    (∀ insertion : Insertion,
      ((∃ report next, recorder.answer (.index insertion) = (.ok report, next)) ↔
        recorder.failure = none) ∧
      ∀ report next, recorder.answer (.index insertion) = (.ok report, next) →
        recorder.store.Keeps insertion.table insertion.record report.id next.store ∧
        report.index = insertion.table ∧
        report.result = recorder.store.outcome ⟨insertion.table, report.id⟩ ∧
        next.store.documentCount insertion.table =
          recorder.store.documentCount insertion.table +
            if report.result = "created" then 1 else 0) ∧
    ∀ batch : Batch,
      ((∃ report next, recorder.answer (.bulk batch) = (.ok report, next)) ↔
        recorder.failure = none) ∧
      ∀ report next, recorder.answer (.bulk batch) = (.ok report, next) →
        let moment := recorder.store.midway batch
        let items := report.itemReports
        let calledCreated := items.countP fun item => item.result = some "created"
        moment 0 = recorder.store ∧ moment batch.records.length = next.store ∧
        items.length = batch.records.length ∧
        (∀ position record, batch.records[position]? = some record →
          ∃ id, items[position]? = some ⟨some batch.table, some id, 201, some "created", none⟩ ∧
            (moment position).Keeps batch.table record id (moment (position + 1))) ∧
        (report.IsTrueOf batch recorder.store ↔
          (items.map ItemReport.id).Nodup ∧ ∀ item ∈ items, ∀ id, item.id = some id →
            recorder.store.find? ⟨batch.table, id⟩ = none) ∧
        (report.IsTrueOf batch recorder.store ↔
          next.store.documentCount batch.table =
            recorder.store.documentCount batch.table + calledCreated) := by
  refine ⟨fun insertion => ⟨exists_answer_eq_ok_iff rfl, ?_⟩,
    fun batch => ⟨exists_answer_eq_ok_iff rfl, ?_⟩⟩
  · intro report next answered
    obtain ⟨kept, index, outcome⟩ := index_report answered
    refine ⟨kept, index, outcome, ?_⟩
    rw [kept.count]
    simp only [outcome, Store.outcome_eq_created_iff]
  · intro report next answered moment items calledCreated
    obtain ⟨rfl, left⟩ := bulk_report answered
    have told : items = _ := BulkReport.itemReports_bulkItem batch.table _
    refine ⟨rfl, left.symm, ?_, ?_, ?_, ?_⟩
    · rw [told, List.length_map, Store.length_putAll]
    · intro position record listed
      refine ⟨((moment position).put batch.table record).1.id, ?_, ?_⟩
      · rw [told, List.getElem?_map, Store.getElem?_putAll, listed]
        rfl
      · rw [show moment (position + 1) = _ from Store.midway_succ listed]
        exact Store.keeps_put ..
    · exact BulkReport.isTrueOf_iff_distinct batch recorder.store
    · rw [left]
      exact BulkReport.isTrueOf_iff_grown batch recorder.store

/-- One user takes the place of another one, and two users come in a batch, one of them without an
identifier: the table grows from one user to three. -/
theorem write_reports_true_iff_annRecorder :
    let dan : Document := .ofList [("name", .string "dan")]
    let batch : Batch := ⟨"users", [⟨some "8", dan⟩, ⟨none, dan⟩]⟩
    (∃ report next, annRecorder.answer (.index ⟨"users", some "7", dan⟩) = (.ok report, next) ∧
      report.result = "updated" ∧ next.store.documentCount "users" = 1) ∧
    ∃ report next, annRecorder.answer (.bulk batch) = (.ok report, next) ∧
      report.IsTrueOf batch annRecorder.store ∧ next.store.documentCount "users" = 3 := by
  intro dan batch
  obtain ⟨single, several⟩ := write_reports_true_iff annRecorder
  obtain ⟨succeeds, reports⟩ := single ⟨"users", some "7", dan⟩
  obtain ⟨report, next, answered⟩ := succeeds.mpr rfl
  obtain ⟨kept, _, outcome, count⟩ := reports report next answered
  have id : report.id = "7" := kept.given "7" rfl
  have updated : report.result = "updated" := by
    rw [outcome, id]
    decide
  refine ⟨⟨report, next, answered, updated, count.trans ?_⟩, ?_⟩
  · rw [updated]
    decide
  · obtain ⟨succeeds, reports⟩ := several batch
    obtain ⟨report, next, answered⟩ := succeeds.mpr rfl
    obtain ⟨_, left, _, _, _, grown⟩ := reports report next answered
    have count : next.store.documentCount "users" = 3 := by
      rw [← left]
      decide
    refine ⟨report, next, answered, grown.mpr (count.trans ?_), count⟩
    cases answered
    decide

end Recorder

namespace Session

/-- Two documents of a batch give the same identifier.  Both are called created, but the second one
takes the place of the first, and the table has one document. -/
theorem not_isTrueOf_of_repeated :
    let ann : Document := .ofList [("id", .string "7"), ("name", .string "ann")]
    let bob : Document := .ofList [("id", .string "7"), ("name", .string "bob")]
    let now := start.run [.act 0 (.set (.table "users"))]
    let next := now.take (.act 0 (.perform .bulk (.insertAll [ann, bob]) (.ofNat 1)))
    ∃ (batch : Batch) (report : BulkReport), Batch.new "users" [ann, bob] = .ok batch ∧
      now.answerTo 0 (.insertAll [ann, bob]) (.ofNat 1) = .ok report ∧
      report.itemReports.map ItemReport.result = [some "created", some "created"] ∧
      (now.store.midway batch 1).find? ⟨"users", "7"⟩ = some (.ofList [("name", .string "ann")]) ∧
      ¬report.IsTrueOf batch now.store ∧
      now.store.documentCount "users" = 0 ∧ next.store.documentCount "users" = 1 := by
  intro ann bob now next
  refine ⟨_, _, rfl, rfl, by decide, by decide, fun claimed => ?_, by decide, by decide⟩
  obtain ⟨id, same, outcome⟩ := claimed 1 _ rfl
  cases same
  revert outcome
  decide

end Session

end DocumentSearch
