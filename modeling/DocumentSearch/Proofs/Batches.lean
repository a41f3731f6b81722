import DocumentSearch.Proofs.Payloads
import DocumentSearch.Proofs.Store

/-!
# Batches are insertions in order

A batch is handed over as lines, an action and a source for each document, and a single document as
one insertion.  On a recorder that is to fail no call the two ways come to the same: the batch leaves
the store that its documents leave when they are inserted one after the other, and it reports the
same identifiers.
-/

namespace DocumentSearch

/-- Calls of one kind in order: their results, and the state they leave. -/
def Engine.answerEach {σ : Type} {kind : Kind} (engine : Engine σ) :
    List (Call kind) → σ → List (Except Error kind.Answer) × σ
  | [], state => ([], state)
  | call :: rest, state =>
      let (result, state) := engine.answer call state
      let (results, state) := engine.answerEach rest state
      (result :: results, state)

namespace Batch

/-- The records of a batch, each as an insertion of its own. -/
def insertions (batch : Batch) : List Insertion := batch.records.map fun record =>
  ⟨batch.table, record⟩

/-- Documents that are accepted as a batch are accepted one by one. -/
theorem forall₂_insertions {table : String} {documents : List Document} {batch : Batch}
    (accepted : Batch.new table documents = .ok batch) :
    List.Forall₂ (fun document insertion => Insertion.new table document = .ok insertion) documents
      batch.insertions := by
  obtain ⟨named, _, same, stored⟩ := new_eq_ok_iff.mp accepted
  refine List.forall₂_map_right_iff.mpr (stored.imp fun document record this => ?_)
  exact Insertion.new_eq_ok_iff.mpr ⟨named, same, this⟩

end Batch

namespace Store

/-- A store as an engine. -/
def engine : Engine Store where
  answer := answer

/-- The report on a record that was stored alone. -/
def Stored.report (table : String) (stored : Stored) : WriteReport :=
  ⟨table, stored.id, some 1, if stored.created then "created" else "updated"⟩

theorem length_putAll (table : String) (records : List Record) (store : Store) :
    (putAll table records store).1.length = records.length := by
  induction records generalizing store with
  | nil => rfl
  | cons record rest ih => exact congrArg Nat.succ (ih _)

theorem answerEach_insertions (batch : Batch) (store : Store) :
    engine.answerEach (batch.insertions.map .index) store =
      ((putAll batch.table batch.records store).1.map fun stored =>
          .ok (stored.report batch.table),
        (putAll batch.table batch.records store).2) := by
  obtain ⟨table, records⟩ := batch
  induction records generalizing store with
  | nil => rfl
  | cons record rest ih =>
      have first : engine.answerEach ((Batch.insertions ⟨table, record :: rest⟩).map .index) store =
          (.ok ((store.put table record).1.report table) ::
              (engine.answerEach ((Batch.insertions ⟨table, rest⟩).map .index)
                (store.put table record).2).1,
            (engine.answerEach ((Batch.insertions ⟨table, rest⟩).map .index)
              (store.put table record).2).2) := rfl
      rw [first, ih]
      rfl

end Store

namespace BulkReport

/-- The items of a batch are read as reports that the documents were stored. -/
theorem itemReports_bulkItem (table : String) (stored : List Store.Stored) :
    itemReports ⟨0, false, stored.map (Store.bulkItem table)⟩ =
      stored.map fun item => ⟨some table, some item.id, 201, some "created", none⟩ := by
  rw [itemReports, List.map_map]
  exact List.map_congr_left fun _ _ => rfl

theorem failedItems_bulkItem (table : String) (stored : List Store.Stored) :
    failedItems ⟨0, false, stored.map (Store.bulkItem table)⟩ = [] := by
  rw [failedItems, List.map_eq_nil_iff, List.filter_eq_nil_iff, itemReports_bulkItem]
  intro entry member
  obtain ⟨item, _, same⟩ := List.mem_map.mp (List.fst_mem_of_mem_zipIdx member)
  rw [← same]
  exact Bool.false_ne_true

end BulkReport

namespace Recorder

/-- While no failure is planned, a recorder answers calls as its store does. -/
theorem answerEach_of_none {kind : Kind} {recorder : Recorder} (unplanned : recorder.failure = none)
    (calls : List (Call kind)) :
    engine.answerEach calls recorder =
      ((Store.engine.answerEach calls recorder.store).1,
        ⟨(Store.engine.answerEach calls recorder.store).2,
          recorder.log ++ calls.map (LoggedCall.mk kind), none⟩) := by
  induction calls generalizing recorder with
  | nil =>
      obtain ⟨store, log, failure⟩ := recorder
      cases unplanned
      simp [Engine.answerEach]
  | cons call rest ih =>
      have next := @ih ⟨(recorder.store.answer call).2, recorder.log ++ [⟨kind, call⟩], none⟩ rfl
      rw [Engine.answerEach, Engine.answerEach]
      simp only [engine, Store.engine, answer_of_none unplanned] at next ⊢
      rw [next, List.append_assoc]
      rfl

/-- On a recorder without a planned failure the call for an accepted batch of any documents leaves
the tables, their order and the count of made-up identifiers that the calls leave by which the
documents are inserted one after the other.  The batch is answered by one item for each document,
which names the table and the identifier that the single call reports, and none of them failed. -/
theorem bulk_eq_one_by_one {recorder : Recorder} (unplanned : recorder.failure = none)
    {table : String} {documents : List Document} {batch : Batch}
    (accepted : Batch.new table documents = .ok batch) :
    ∃ (insertions : List Insertion) (singles : List WriteReport) (report : BulkReport),
      List.Forall₂ (fun document insertion => Insertion.new table document = .ok insertion)
        documents insertions ∧
      (engine.answer (.bulk batch) recorder).1 = .ok report ∧
      (engine.answerEach (insertions.map .index) recorder).1 = singles.map .ok ∧
      (engine.answer (.bulk batch) recorder).2.store =
        (engine.answerEach (insertions.map .index) recorder).2.store ∧
      report.items.length = documents.length ∧
      report.itemReports = singles.map (fun single =>
        ⟨some table, some single.id, 201, some "created", none⟩) ∧
      (∀ single ∈ singles, single.index = table) ∧
      report.failedItems = [] := by
  obtain ⟨_, _, rfl, stored⟩ := Batch.new_eq_ok_iff.mp accepted
  have together : engine.answer (.bulk batch) recorder =
      (.ok ⟨0, false, (Store.putAll batch.table batch.records recorder.store).1.map
          (Store.bulkItem batch.table)⟩,
        ⟨(Store.putAll batch.table batch.records recorder.store).2,
          recorder.log ++ [⟨.bulk, .bulk batch⟩], none⟩) := by
    simp only [engine, answer_of_none unplanned, Store.answer_bulk]
  have oneByOne := answerEach_of_none unplanned (batch.insertions.map .index)
  rw [Store.answerEach_insertions] at oneByOne
  refine ⟨batch.insertions, _, _, Batch.forall₂_insertions accepted, congrArg Prod.fst together,
    (congrArg Prod.fst oneByOne).trans List.map_map.symm, ?_, ?_, ?_, ?_, ?_⟩
  · rw [together, oneByOne]
  · rw [List.length_map, Store.length_putAll, stored.length_eq]
  · rw [BulkReport.itemReports_bulkItem, List.map_map]
    rfl
  · intro single member
    obtain ⟨_, _, rfl⟩ := List.mem_map.mp member
    rfl
  · exact BulkReport.failedItems_bulkItem _ _

/-- A recorder that has stored one user, under the identifier `7`. -/
def annRecorder : Recorder :=
  let users := (Action.set (.table "users")).step engine .new .empty
  ((Action.perform .write (.insert (.ofList [("id", .string "7"), ("name", .string "ann")]))
    (.ofNat 1)).step engine users.1 users.2).2

/-- The second document of the batch takes the place of a stored one, and the third the place of the
first, which came without an identifier. -/
theorem bulk_eq_one_by_one_overwriting :
    let documents : List Document :=
      [.ofList [("name", .string "bob")], .ofList [("name", .string "eve"), ("id", .string "7")],
        .ofList [("id", .string "auto-1"), ("name", .string "dan")]]
    ∃ (batch : Batch) (insertions : List Insertion) (report : BulkReport),
      annRecorder.failure = none ∧ Batch.new "users" documents = .ok batch ∧
      (engine.answer (.bulk batch) annRecorder).1 = .ok report ∧ report.items.length = 3 ∧
      report.itemReports.map ItemReport.id = [some "auto-1", some "7", some "auto-1"] ∧
      report.failedItems = [] ∧
      ((engine.answerEach (insertions.map .index) annRecorder).2.store.table "users").entries =
        [("7", .ofList [("name", .string "eve")]), ("auto-1", .ofList [("name", .string "dan")])] := by
  intro documents
  obtain ⟨batch, accepted⟩ : ∃ batch, Batch.new "users" documents = .ok batch := ⟨_, rfl⟩
  have unplanned : annRecorder.failure = none := rfl
  obtain ⟨insertions, _, report, _, answered, _, same, count, _, _, failed⟩ :=
    bulk_eq_one_by_one unplanned accepted
  refine ⟨batch, insertions, report, unplanned, accepted, answered, count, ?_, failed, ?_⟩
  · cases accepted
    cases answered
    rfl
  · rw [← same]
    cases accepted
    rfl

end Recorder

end DocumentSearch
