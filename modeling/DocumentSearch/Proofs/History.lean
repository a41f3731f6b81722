import DocumentSearch.Proofs.Plans
import DocumentSearch.Proofs.Store

/-!
# A recorder is a map

The answers of a session tell which documents were stored, changed and removed, and where.  What a
client is shown at an address is told from this history alone: what was stored there last, with
everything merged that was reported since, unless it was removed.  A single turn changes what is
found at an address in the way its answer says (`Session.find?_take`), and a session does so turn
after turn (`Session.find?_run_eq_some_iff`).
-/

namespace DocumentSearch

/-- What an answer reports about one stored document. -/
inductive Write
  | stored (body : Document)
  | merged (fields : Document)
  | removed
deriving DecidableEq, Repr

/-- Reported writes with their addresses, oldest first. -/
abbrev History := List (Address × Write)

/-- Whether writes to one address leave a document there: one was stored, and since the last time there
were nothing but changes, which are merged in order. -/
def Write.Leave (writes : List Write) (body : Document) : Prop :=
  ∃ (past : List Write) (original : Document) (changes : List Document),
    writes = past ++ .stored original :: changes.map .merged ∧
      changes.foldl OrderedMap.merge original = body

namespace History

/-- The writes to one address. -/
def on (history : History) (address : Address) : List Write :=
  (history.filter fun entry => entry.1 = address).map Prod.snd

/-- Whether a history leaves a document at an address. -/
def Holds (history : History) (address : Address) (body : Document) : Prop :=
  Write.Leave (history.on address) body

end History

/-- The address at which an item of a batch reports a document to be stored. -/
def ItemReport.address? (item : ItemReport) : Option Address :=
  if item.isError then none
  else
    match item.index, item.id with
    | some table, some id => some ⟨table, id⟩
    | _, _ => none

/-- The writes that an answer to an operation reports. -/
def Operation.writes {kind : Kind} (operation : Operation kind) (table : String)
    (answer : kind.Answer) : History :=
  match operation, answer with
  | .insert document, report =>
      [(⟨report.index, report.id⟩, .stored (document.erase Document.idField))]
  | .insertAll documents, report =>
      (documents.zip report.itemReports).filterMap fun (document, item) =>
        item.address?.map fun address => (address, .stored (document.erase Document.idField))
  | .update id fields, _ => [(⟨table, id⟩, .merged fields)]
  | .delete id, _ => [(⟨table, id⟩, .removed)]
  | .get, _ | .find _, _ | .createTable _ _, _ | .updateTable _ _, _ | .tableInfo _, _ => []

/-- The writes that the result of an operation reports: those of the answer, if there is one. -/
def Operation.reports {kind : Kind} (operation : Operation kind) (table? : Option String)
    (result : Except Error kind.Answer) : History :=
  match table?, result with
  | some table, .ok answer => operation.writes table answer
  | _, _ => []

namespace Session

/-- The writes that are reported in a turn. -/
def writes (session : Session) : Turn → History
  | .act who (.perform _ operation seconds) =>
      operation.reports (session.clients who).draft.table
        (session.answerTo who operation seconds)
  | _ => []

/-- The writes that are reported in turns in order. -/
def history (session : Session) : List Turn → History
  | [] => []
  | turn :: rest => session.writes turn ++ (session.take turn).history rest

end Session

/-! ## Histories -/

namespace Write

/-- What is found at an address after a write to it. -/
def outcome (found : Option Document) : Write → Option Document
  | .stored body => some body
  | .merged fields => found.map fun body => body.merge fields
  | .removed => none

theorem not_leave_nil (body : Document) : ¬Leave [] body := by
  rintro ⟨past, original, changes, empty, _⟩
  simp at empty

/-- The last write decides: it stores the document, or it is merged into what was left before it. -/
theorem leave_append_singleton_iff {writes : List Write} {write : Write} {body : Document} :
    Leave (writes ++ [write]) body ↔
      write = .stored body ∨
        ∃ fields before, write = .merged fields ∧ Leave writes before ∧
          before.merge fields = body := by
  constructor
  · rintro ⟨past, original, changes, same, rfl⟩
    rcases changes.eq_nil_or_concat' with rfl | ⟨earlier, last, rfl⟩
    · obtain ⟨_, equal⟩ := List.append_inj' same rfl
      exact .inl (List.cons.inj equal).1
    · rw [List.map_append, ← List.cons_append, ← List.append_assoc] at same
      obtain ⟨rfl, equal⟩ := List.append_inj' same rfl
      exact .inr ⟨last, _, (List.cons.inj equal).1, ⟨past, original, earlier, rfl, rfl⟩, by simp⟩
  · rintro (rfl | ⟨fields, _, rfl, ⟨past, original, changes, rfl, rfl⟩, rfl⟩)
    · exact ⟨writes, body, [], rfl, rfl⟩
    · exact ⟨past, original, changes ++ [fields], by simp, by simp⟩

theorem foldl_outcome_eq_some_iff {writes : List Write} {body : Document} :
    writes.foldl outcome none = some body ↔ Leave writes body := by
  induction writes using List.reverseRecOn generalizing body with
  | nil => simp [not_leave_nil]
  | append_singleton writes write ih =>
      rw [List.foldl_append, List.foldl_cons, List.foldl_nil, leave_append_singleton_iff]
      cases write with
      | stored new => simp [outcome]
      | merged fields => simp [outcome, ih]
      | removed => simp [outcome]

end Write

namespace History

/-- What is found at an address after the writes of a history. -/
def after (history : History) (address : Address) (found : Option Document) : Option Document :=
  (history.on address).foldl Write.outcome found

@[simp] theorem after_nil (address : Address) (found : Option Document) :
    after [] address found = found := rfl

theorem after_cons (entry : Address × Write) (history : History) (address : Address)
    (found : Option Document) :
    after (entry :: history) address found =
      history.after address
        (if entry.1 = address then entry.2.outcome found else found) := by
  unfold after on
  by_cases same : entry.1 = address <;> simp [same]

theorem after_append (left right : History) (address : Address) (found : Option Document) :
    after (left ++ right) address found = right.after address (left.after address found) := by
  simp [after, on]

theorem after_none_eq_some_iff {history : History} {address : Address} {body : Document} :
    history.after address none = some body ↔ history.Holds address body :=
  Write.foldl_outcome_eq_some_iff

theorem after_of_forall_ne {history : History} {address : Address}
    (elsewhere : ∀ entry ∈ history, entry.1 ≠ address) (found : Option Document) :
    history.after address found = found := by
  have nothing : history.on address = [] := by
    simpa [on, List.filter_eq_nil_iff] using elsewhere
  rw [after, nothing, List.foldl_nil]

end History

/-! ## Turns -/

theorem Store.find?_putAll (table : String) {documents : List Document} {records : List Record}
    (stored : List.Forall₂ Document.IsStoredAs documents records) (store : Store)
    (address : Address) :
    (putAll table records store).2.find? address =
      ((Operation.insertAll documents).writes table
        ⟨0, false, (putAll table records store).1.map (bulkItem table)⟩).after address
          (store.find? address) := by
  induction stored generalizing store with
  | nil => rfl
  | @cons document record others rest first _ ih =>
      have reported : (Operation.insertAll (document :: others)).writes table
          ⟨0, false, (putAll table (record :: rest) store).1.map (bulkItem table)⟩ =
            (⟨table, (store.put table record).1.id⟩,
                .stored (document.erase Document.idField)) ::
              (Operation.insertAll others).writes table ⟨0, false,
                (putAll table rest (store.put table record).2).1.map (bulkItem table)⟩ := by
        rfl
      rw [reported, History.after_cons]
      change (putAll table rest (store.put table record).2).2.find? address = _
      rw [ih, find?_put, first.2.1]
      rfl

namespace Operation

variable {kind : Kind} {operation : Operation kind}

theorem reports_eq_nil (silent : ∀ table answer, operation.writes table answer = [])
    (table? : Option String) (result : Except Error kind.Answer) :
    operation.reports table? result = [] := by
  unfold reports
  split
  · exact silent ..
  · rfl

theorem reports_error (table? : Option String) (error : Error) :
    operation.reports table? (.error error) = [] := by
  cases table? <;> rfl

theorem find?_answer {draft : Draft} {call : Call kind} (planned : operation.plan draft = .ok call)
    (store : Store) (address : Address) :
    (store.answer call).2.find? address =
      (operation.reports draft.table (store.answer call).1).after address
        (store.find? address) := by
  cases calls_of_plan planned with
  | get | find | updateTable | tableInfo =>
      rw [reports_eq_nil fun _ _ => rfl]
      rfl
  | createTable =>
      rw [reports_eq_nil fun _ _ => rfl]
      exact store.find?_create _ address
  | insert selected _ stored =>
      simp only [selected, reports, Store.answer, writes, History.after_cons, History.after_nil]
      rw [Store.find?_put, stored.2.1]
      rfl
  | insertAll selected _ _ stored =>
      rw [selected, Store.answer_bulk]
      exact Store.find?_putAll _ stored store address
  | @update table id fields selected =>
      rw [selected]
      cases found : store.find? ⟨table, id⟩ with
      | none =>
          simp only [Store.answer, found]
          rfl
      | some body =>
          simp only [Store.answer, found, reports, writes, History.after_cons, History.after_nil]
          rw [Store.find?_putAt]
          split
          · rename_i same
            rw [← same, found]
            rfl
          · rfl
  | @delete table id selected =>
      rw [selected]
      cases found : store.find? ⟨table, id⟩ with
      | none =>
          simp only [Store.answer, found]
          rfl
      | some body =>
          simp only [Store.answer, found, reports, writes, History.after_cons, History.after_nil]
          exact Store.find?_remove store ⟨table, id⟩ address

end Operation

namespace Session

/-- What is found after a turn is told from what the turn reports. -/
theorem find?_take (session : Session) (turn : Turn) (address : Address) :
    (session.take turn).store.find? address =
      (session.writes turn).after address (session.store.find? address) := by
  cases turn with
  | failNext failure | clearLog => rfl
  | act who action =>
      cases action with
      | reset | preview => rfl
      | set setter =>
          rw [store, recorder_take_set]
          rfl
      | perform kind operation seconds =>
          obtain ⟨⟨error, failed⟩, same⟩ | ⟨call, planned, answered, after⟩ :=
            session.perform_cases who operation seconds
          · have silent : session.writes (.act who (.perform kind operation seconds)) = [] := by
              rw [writes, failed, Operation.reports_error]
            rw [same, silent, History.after_nil]
          · rw [after, writes, answered]
            exact Operation.find?_answer planned session.store address

theorem find?_run (session : Session) (turns : List Turn) (address : Address) :
    (session.run turns).store.find? address =
      (session.history turns).after address (session.store.find? address) := by
  induction turns generalizing session with
  | nil => rfl
  | cons turn rest ih =>
      rw [history, History.after_append, ← find?_take]
      exact ih (session.take turn)

theorem find?_run_eq_some_iff {turns : List Turn} {address : Address} {body : Document} :
    (start.run turns).store.find? address = some body ↔
      (start.history turns).Holds address body := by
  rw [find?_run, ← History.after_none_eq_some_iff]
  rfl

theorem reachable_clients (turns : List Turn) (who : Nat) :
    ((start.run turns).clients who).Reachable Recorder.engine := by
  induction turns using List.reverseRecOn generalizing who with
  | nil => exact .new
  | append_singleton turns turn ih =>
      rw [run_append_singleton]
      cases turn with
      | failNext failure | clearLog => exact ih who
      | act acting action =>
          by_cases same : who = acting
          · subst same
            simpa [take] using (ih who).step action (start.run turns).recorder
          · simpa [take, same] using ih who

theorem answerTo_address {session : Session} {who : Nat} {table id : String}
    (selected : (session.clients who).draft.table = some table) (named : table ≠ "")
    (identified : id ≠ "") (unplanned : session.recorder.failure = none) (seconds : Binary64) :
    (∀ body, session.store.find? ⟨table, id⟩ = some body →
      session.answerTo who (.find id) seconds = .ok ⟨table, id, some 1, true, some body⟩ ∧
      (∀ fields : Document, fields.isEmpty = false →
        session.answerTo who (.update id fields) seconds =
          .ok ⟨table, id, some 2, "updated"⟩) ∧
      session.answerTo who (.delete id) seconds = .ok ⟨table, id, some 2, "deleted"⟩) ∧
    (session.store.find? ⟨table, id⟩ = none →
      session.answerTo who (.find id) seconds = .error (.notFound table id) ∧
      (∀ fields : Document, fields.isEmpty = false →
        session.answerTo who (.update id fields) seconds = .error (.notFound table id)) ∧
      session.answerTo who (.delete id) seconds = .error (.notFound table id)) := by
  have findPlanned := Operation.plan_eq_ok_iff_calls.mpr (.find selected named identified)
  have deletePlanned := Operation.plan_eq_ok_iff_calls.mpr (.delete selected named identified)
  have updatePlanned := fun (fields : Document) (filled : fields.isEmpty = false) =>
    Operation.plan_eq_ok_iff_calls.mpr (.update selected named identified filled)
  constructor
  · intro body found
    refine ⟨?_, fun fields filled => ?_, ?_⟩
    · rw [answerTo_of_plan unplanned findPlanned]
      simp [Store.answer, found]
    · rw [answerTo_of_plan unplanned (updatePlanned fields filled)]
      simp [Store.answer, found]
    · rw [answerTo_of_plan unplanned deletePlanned]
      simp [Store.answer, found]
  · intro missing
    refine ⟨?_, fun fields filled => ?_, ?_⟩
    · rw [answerTo_of_plan unplanned findPlanned]
      simp [Store.answer, Store.missing, missing]
    · rw [answerTo_of_plan unplanned (updatePlanned fields filled)]
      simp [Store.answer, Store.missing, missing]
    · rw [answerTo_of_plan unplanned deletePlanned]
      simp [Store.answer, Store.missing, missing]

/-- A recorder is a map from addresses to documents.  A client that looks for a document, and whose
call does not meet a planned failure, is shown what the history of the session left at the address,
and fails to find it when nothing was left there, as it fails to change or to remove it then.
Changes are merged field by field: a known field keeps its place and gets the new value, and new
fields follow.  A turn without a write to an address changes nothing there, and every table has its
identifiers once. -/
theorem recorder_refines_map (turns : List Turn) :
    let now := start.run turns
    let history := start.history turns
    (∀ (who : Nat) (table id : String) (seconds : Binary64),
      (now.clients who).draft.table = some table → id ≠ "" → now.recorder.failure = none →
      (∀ body, history.Holds ⟨table, id⟩ body →
        now.answerTo who (.find id) seconds = .ok ⟨table, id, some 1, true, some body⟩ ∧
        (∀ fields : Document, fields.isEmpty = false →
          now.answerTo who (.update id fields) seconds = .ok ⟨table, id, some 2, "updated"⟩) ∧
        now.answerTo who (.delete id) seconds = .ok ⟨table, id, some 2, "deleted"⟩) ∧
      ((¬∃ body, history.Holds ⟨table, id⟩ body) →
        now.answerTo who (.find id) seconds = .error (.notFound table id) ∧
        (∀ fields : Document, fields.isEmpty = false →
          now.answerTo who (.update id fields) seconds = .error (.notFound table id)) ∧
        now.answerTo who (.delete id) seconds = .error (.notFound table id))) ∧
    (∀ body fields : Document,
      (body.merge fields).keys =
          body.keys ++ fields.keys.filter (fun field => field ∉ body.keys) ∧
        ∀ field, (body.merge fields).get? field = (fields.get? field).or (body.get? field)) ∧
    (∀ turn address, (∀ entry ∈ now.writes turn, entry.1 ≠ address) →
      (now.take turn).store.find? address = now.store.find? address) ∧
    ∀ table, (now.store.table table).keys.Nodup := by
  intro now history
  refine ⟨?_, fun body fields => ⟨OrderedMap.keys_merge body fields, OrderedMap.get?_merge body fields⟩,
    ?_, fun table => OrderedMap.distinct _⟩
  · intro who table id seconds selected identified unplanned
    have named : table ≠ "" := fun unnamed =>
      (reachable_clients turns who).table_ne (unnamed ▸ selected)
    obtain ⟨held, missing⟩ := answerTo_address selected named identified unplanned seconds
    constructor
    · intro body left
      exact held body (find?_run_eq_some_iff.mpr left)
    · intro nothing
      apply missing
      rw [Option.eq_none_iff_forall_ne_some]
      exact fun body found => nothing ⟨body, find?_run_eq_some_iff.mp found⟩
  · intro turn address elsewhere
    rw [find?_take, History.after_of_forall_ne elsewhere]

/-- Two users are stored, one of them in a batch that makes up its identifier.  The first one is
changed, after a try that met a planned failure, and the second one is removed. -/
def twoUsers : List Turn :=
  let fields : Document := .ofList [("guest", .bool false), ("city", .string "Rome")]
  [.act 0 (.set (.table "users")),
    .act 0 (.perform .write (.insert (.ofList
      [("id", .string "7"), ("guest", .bool true), ("name", .string "alice")])) (.ofNat 1)),
    .act 1 (.set (.table "users")),
    .act 1 (.perform .bulk (.insertAll [.ofList [("name", .string "bob")]]) (.ofNat 1)),
    .failNext ⟨none, "offline"⟩,
    .act 0 (.set (.table "users")),
    .act 0 (.perform .write (.update "7" (.ofList [("name", .string "eve")])) (.ofNat 1)),
    .act 0 (.set (.table "users")), .act 0 (.perform .write (.update "7" fields) (.ofNat 1)),
    .act 1 (.set (.table "users")), .act 1 (.perform .write (.delete "auto-1") (.ofNat 1)),
    .act 2 (.set (.table "users"))]

/-- The change that failed leaves no trace, the other one is merged, and the removed user is not
found; a new removal of that user leaves the first one where it is. -/
theorem recorder_refines_map_twoUsers :
    let now := start.run twoUsers
    let changed : Document := .ofList
      [("guest", .bool false), ("name", .string "alice"), ("city", .string "Rome")]
    ((now.clients 2).draft.table = some "users" ∧ now.recorder.failure = none ∧
        (start.history twoUsers).Holds ⟨"users", "7"⟩ changed) ∧
      now.answerTo 2 (.find "7") (.ofNat 1) = .ok ⟨"users", "7", some 1, true, some changed⟩ ∧
      now.answerTo 2 (.find "auto-1") (.ofNat 1) = .error (.notFound "users" "auto-1") ∧
      (now.take (.act 2 (.perform .write (.delete "auto-1") (.ofNat 1)))).store.find?
        ⟨"users", "7"⟩ = now.store.find? ⟨"users", "7"⟩ := by
  intro now changed
  obtain ⟨shown, _, apart, _⟩ := recorder_refines_map twoUsers
  have held : (start.history twoUsers).Holds ⟨"users", "7"⟩ changed :=
    History.after_none_eq_some_iff.mp rfl
  have gone : ¬∃ body, (start.history twoUsers).Holds ⟨"users", "auto-1"⟩ body := by
    rintro ⟨body, left⟩
    cases History.after_none_eq_some_iff.mpr left
  refine ⟨⟨rfl, rfl, held⟩, ?_, ?_, ?_⟩
  · exact ((shown 2 "users" "7" (.ofNat 1) rfl (by decide) rfl).1 changed held).1
  · exact ((shown 2 "users" "auto-1" (.ofNat 1) rfl (by decide) rfl).2 gone).1
  · exact apart _ _ (by rintro _ ⟨⟩)

end Session

end DocumentSearch
