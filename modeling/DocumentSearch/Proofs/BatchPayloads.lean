import DocumentSearch.Proofs.Batches
import DocumentSearch.Proofs.Splitting

/-!
# Batches hold the payloads of single insertions

A batch takes each document as a single insertion into its table takes it (`split_cons_cases`).  So it
is accepted when all of its documents are, and its lines are those of the single payloads one after
the other.  Otherwise the first document that is refused decides, whatever comes behind it.
-/

namespace DocumentSearch

/-- How a batch tells why the document at a position is refused.  One without fields is told by its
position, whether it has an identifier or not. -/
def InvalidInput.inBatch (position : Nat) : InvalidInput → InvalidInput
  | .emptyData | .onlyId => .emptyDocument position
  | cause => cause

theorem Document.RefusesId.inBatch {json : Json} {cause : InvalidInput}
    (refused : Document.RefusesId json cause) (position : Nat) : cause.inBatch position = cause := by
  cases refused <;> rfl

/-- Whether a document can be inserted into a table alone. -/
def Insertion.Accepts (table : String) (document : Document) : Prop :=
  ∃ insertion, Insertion.new table document = .ok insertion

/-- The two lines that an insertion has in a batch. -/
def Insertion.lines (insertion : Insertion) : List Batch.Line :=
  [.action insertion.table insertion.record.id, .source insertion.record.body]

theorem Insertion.new_of_named {table : String} (named : table ≠ "") (document : Document) :
    Insertion.new table document =
      if document.isEmpty then .error .emptyData
      else match document.split with
        | .error cause => .error cause
        | .ok record => if record.body.isEmpty then .error .onlyId else .ok ⟨table, record⟩ := by
  have passed : checkTable table = .ok () := checkTable_eq_ok_iff.mpr named
  simp only [Insertion.new, passed, bind, Except.bind, pure, Except.pure]
  cases document.isEmpty with
  | true => rfl
  | false =>
      cases document.split with
      | error cause => rfl
      | ok record => cases record.body.isEmpty <;> rfl

namespace Batch

theorem split_cons (position : Nat) (document : Document) (rest : List Document) :
    split position (document :: rest) =
      match document.split with
      | .error cause => .error cause
      | .ok record =>
          if record.body.isEmpty then .error (.emptyDocument position)
          else (split (position + 1) rest).map (record :: ·) := by
  rw [split]
  cases document.split with
  | error cause => rfl
  | ok record =>
      simp only [bind, Except.bind, pure, Except.pure]
      cases record.body.isEmpty with
      | true => rfl
      | false => cases split (position + 1) rest <;> rfl

/-- A batch takes its first document as a single insertion takes it, and refuses it likewise. -/
theorem split_cons_cases {table : String} (named : table ≠ "") (document : Document) :
    (∃ insertion, Insertion.new table document = .ok insertion ∧
      ∀ position rest, split position (document :: rest) =
        (split (position + 1) rest).map (insertion.record :: ·)) ∨
    ∃ cause, Insertion.new table document = .error cause ∧
      ∀ position rest, split position (document :: rest) = .error (cause.inBatch position) := by
  cases parted : document.split with
  | error cause =>
      obtain ⟨json, found, unfit⟩ := Document.id?_eq_error_iff.mp
        (Document.split_eq_error_iff.mp parted)
      have filled : document.isEmpty = false := by
        cases entries : document.entries with
        | nil => simp [OrderedMap.get?, Entries.get?, entries] at found
        | cons entry rest => simp [OrderedMap.isEmpty, entries]
      refine .inr ⟨cause, ?_, fun position rest => ?_⟩
      · rw [Insertion.new_of_named named, filled, parted]
        rfl
      · rw [split_cons, parted, unfit.inBatch]
  | ok record =>
      cases bare : record.body.isEmpty with
      | true =>
          have refused : ∀ position rest,
              split position (document :: rest) = .error (.emptyDocument position) := by
            intro position rest
            rw [split_cons, parted]
            exact if_pos bare
          cases empty : document.isEmpty with
          | true =>
              refine .inr ⟨.emptyData, ?_, refused⟩
              rw [Insertion.new_of_named named]
              exact if_pos empty
          | false =>
              refine .inr ⟨.onlyId, ?_, refused⟩
              rw [Insertion.new_of_named named, empty, parted]
              exact if_pos bare
      | false =>
          obtain ⟨given, fields⟩ := Document.split_eq_ok_iff.mp parted
          have stored : document.IsStoredAs record := ⟨given, fields, bare⟩
          refine .inl ⟨⟨table, record⟩, Insertion.new_eq_ok_iff.mpr ⟨named, rfl, stored⟩, ?_⟩
          intro position rest
          rw [split_cons, parted]
          exact if_neg (by simp [bare])

/-- Splitting fails at the first document that cannot be inserted alone, and tells its position. -/
theorem split_eq_error_iff {table : String} (named : table ≠ "") {position : Nat}
    {documents : List Document} {cause : InvalidInput} :
    split position documents = .error cause ↔
      ∃ before refused after reason, documents = before ++ refused :: after ∧
        (∀ document ∈ before, Insertion.Accepts table document) ∧
        Insertion.new table refused = .error reason ∧
        cause = reason.inBatch (position + before.length) := by
  induction documents generalizing position with
  | nil => simp [split]
  | cons document rest ih =>
      obtain ⟨insertion, accepted, goesOn⟩ | ⟨reason, refused, stops⟩ :=
        split_cons_cases named document
      · rw [goesOn, map_eq_error, ih]
        constructor
        · rintro ⟨before, refused, after, reason, rfl, allAccepted, isRefused, rfl⟩
          refine ⟨document :: before, refused, after, reason, rfl, ?_, isRefused, ?_⟩
          · exact List.forall_mem_cons.mpr ⟨⟨insertion, accepted⟩, allAccepted⟩
          · rw [List.length_cons, Nat.add_right_comm, Nat.add_assoc]
        · rintro ⟨_ | ⟨first, before⟩, refused, after, reason, same, allAccepted, isRefused, rfl⟩
          · cases same
            cases accepted.symm.trans isRefused
          · cases same
            refine ⟨before, refused, after, reason, rfl, ?_, isRefused, ?_⟩
            · exact (List.forall_mem_cons.mp allAccepted).2
            · rw [List.length_cons, Nat.add_right_comm, Nat.add_assoc]
      · rw [stops, Except.error.injEq]
        constructor
        · rintro rfl
          exact ⟨[], document, rest, reason, rfl, by simp, refused, rfl⟩
        · rintro ⟨_ | ⟨first, before⟩, other, after, otherReason, same, allAccepted, isRefused, rfl⟩
          · cases same
            cases refused.symm.trans isRefused
            rfl
          · cases same
            obtain ⟨insertion, accepted⟩ := (List.forall_mem_cons.mp allAccepted).1
            cases refused.symm.trans accepted

/-- What stands in the way of a batch: its table has no name, or else a document is refused, or else
there is none. -/
theorem new_eq_error_iff {table : String} {documents : List Document} {cause : InvalidInput} :
    Batch.new table documents = .error cause ↔
      (table = "" ∧ cause = .emptyTable) ∨
      (table ≠ "" ∧ split 0 documents = .error cause) ∨
      table ≠ "" ∧ documents = [] ∧ cause = .emptyData := by
  by_cases named : table = ""
  · subst named
    have refused : Batch.new "" documents = .error .emptyTable := rfl
    simp [refused, eq_comm]
  · have passed : checkTable table = .ok () := checkTable_eq_ok_iff.mpr named
    simp only [Batch.new, passed, bind, Except.bind, pure, Except.pure]
    cases parted : split 0 documents with
    | error reason =>
        have several : documents ≠ [] := by
          rintro rfl
          cases parted
        simp [named, several]
    | ok records =>
        have lengths := (split_eq_ok_iff.mp parted).length_eq
        cases documents with
        | nil =>
            cases parted
            simp [named, eq_comm]
        | cons document rest =>
            obtain ⟨record, others, rfl⟩ := List.exists_cons_of_length_eq_add_one lengths.symm
            simp [named]

theorem exists_new_iff {table : String} {documents : List Document} :
    (∃ batch, Batch.new table documents = .ok batch) ↔
      documents ≠ [] ∧ ∀ document ∈ documents, Insertion.Accepts table document := by
  constructor
  · rintro ⟨batch, accepted⟩
    have singles := (forall₂_insertions accepted).imp fun _ insertion single =>
      (⟨⟨insertion, single⟩, single⟩ : Insertion.Accepts table _ ∧ _)
    exact ⟨(new_eq_ok_iff.mp accepted).2.1, ((List.forall₂_and_left _ _).mp singles).1⟩
  · rintro ⟨several, accepted⟩
    have named : table ≠ "" := by
      obtain ⟨document, rest, rfl⟩ := List.exists_cons_of_ne_nil several
      obtain ⟨insertion, single⟩ := accepted document List.mem_cons_self
      exact (Insertion.new_eq_ok_iff.mp single).1
    cases outcome : Batch.new table documents with
    | ok batch => exact ⟨batch, rfl⟩
    | error cause =>
        obtain ⟨unnamed, _⟩ | ⟨_, parted⟩ | ⟨_, none, _⟩ := new_eq_error_iff.mp outcome
        · exact absurd unnamed named
        · obtain ⟨before, refused, after, reason, rfl, _, isRefused, _⟩ :=
            (split_eq_error_iff named).mp parted
          obtain ⟨insertion, single⟩ := accepted refused (by simp)
          cases isRefused.symm.trans single
        · exact absurd none several

theorem lines_eq_insertions (batch : Batch) :
    batch.lines = batch.insertions.flatMap Insertion.lines := by
  rw [lines, insertions, List.flatMap_map]
  rfl

/-- A batch of documents is accepted exactly when there are some and each of them is accepted alone.
Its lines are then those of the single insertions in order, two for each document, and every action
names the table.  A batch is refused for its table, or else for the first document that is refused
alone, of which the batch tells the same or the position, or else for want of documents. -/
theorem new_agrees_with_insertions (table : String) (documents : List Document) :
    ((∃ batch, Batch.new table documents = .ok batch) ↔
      documents ≠ [] ∧ ∀ document ∈ documents, Insertion.Accepts table document) ∧
    (∀ batch, Batch.new table documents = .ok batch →
      ∃ insertions,
        List.Forall₂ (fun document insertion => Insertion.new table document = .ok insertion)
          documents insertions ∧
        batch.lines = insertions.flatMap Insertion.lines ∧
        batch.documentCount = documents.length ∧
        ∀ named id, .action named id ∈ batch.lines → named = table) ∧
    ∀ cause, Batch.new table documents = .error cause ↔
      (table = "" ∧ cause = .emptyTable) ∨
      (table ≠ "" ∧ ∃ before refused after reason, documents = before ++ refused :: after ∧
        (∀ document ∈ before, Insertion.Accepts table document) ∧
        Insertion.new table refused = .error reason ∧ cause = reason.inBatch before.length) ∨
      table ≠ "" ∧ documents = [] ∧ cause = .emptyData := by
  refine ⟨exists_new_iff, ?_, fun cause => ?_⟩
  · intro batch accepted
    have singles := forall₂_insertions accepted
    refine ⟨batch.insertions, singles, batch.lines_eq_insertions, ?_, ?_⟩
    · rw [documentCount_eq, singles.length_eq, insertions, List.length_map]
    · obtain ⟨_, _, rfl, _⟩ := new_eq_ok_iff.mp accepted
      intro named id listed
      obtain ⟨record, _, line⟩ := List.mem_flatMap.mp listed
      simp only [List.mem_cons, Line.action.injEq, reduceCtorEq, List.not_mem_nil, or_false] at line
      exact line.1
  · rw [new_eq_error_iff]
    refine or_congr_right (or_congr_left (and_congr_right fun named => ?_))
    rw [split_eq_error_iff named]
    simp only [Nat.zero_add]

/-- A batch with an identifier and one without, and a batch whose second document is refused before
the third one is looked at. -/
theorem new_agrees_with_insertions_users :
    let ann : Document := .ofList [("name", .string "ann"), ("id", .number (.ofInt64 (-7)))]
    let bob : Document := .ofList [("id", .null), ("name", .string "bob")]
    (∃ batch, Batch.new "users" [ann, bob] = .ok batch ∧ batch.documentCount = 2 ∧
      batch.lines =
        [.action "users" (some "-7"), .source (.ofList [("name", .string "ann")]),
          .action "users" none, .source (.ofList [("name", .string "bob")])]) ∧
    Batch.new "users" [ann, .ofList [("id", .string "8")], .ofList [("id", .string "")]] =
      .error (.emptyDocument 1) := by
  intro ann bob
  have annAlone : Insertion.new "users" ann =
    .ok ⟨"users", some "-7", .ofList [("name", .string "ann")]⟩ := by rfl
  have bobAlone : Insertion.new "users" bob =
    .ok ⟨"users", none, .ofList [("name", .string "bob")]⟩ := by rfl
  obtain ⟨accepts, agrees, _⟩ := new_agrees_with_insertions "users" [ann, bob]
  obtain ⟨_, _, refuses⟩ := new_agrees_with_insertions "users"
    [ann, .ofList [("id", .string "8")], .ofList [("id", .string "")]]
  obtain ⟨batch, accepted⟩ := accepts.mpr ⟨by simp, by
    simp only [List.forall_mem_cons]
    exact ⟨⟨_, annAlone⟩, ⟨_, bobAlone⟩, by simp⟩⟩
  obtain ⟨insertions, singles, written, count, _⟩ := agrees batch accepted
  refine ⟨⟨batch, accepted, count, ?_⟩, ?_⟩
  · obtain ⟨_, _, first, rest, rfl⟩ := List.forall₂_cons_left_iff.mp singles
    obtain ⟨_, _, second, none, rfl⟩ := List.forall₂_cons_left_iff.mp rest
    cases annAlone.symm.trans first
    cases bobAlone.symm.trans second
    cases none
    exact written
  · refine (refuses _).mpr (.inr (.inl ⟨by decide, [ann], _, _, .onlyId, rfl, ?_, rfl, rfl⟩))
    exact List.forall_mem_singleton.mpr ⟨_, annAlone⟩

end Batch

end DocumentSearch
