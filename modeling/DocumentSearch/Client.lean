import DocumentSearch.Engine
import DocumentSearch.Metrics.Tally

/-!
# Clients

A client holds a draft and a tally and works on an engine.  Setters check their arguments before
they touch the draft, so a refused setter leaves it as it was.

An operation is planned before anything is sent: the plan is the one call to make, or the error that
stands in its way.  Operations on the drafted query take the draft with them and leave an empty one,
whatever becomes of them; operations on tables do not look at the draft.
-/

namespace DocumentSearch

/-- A step in putting a query together. -/
inductive Setter
  /-- Selects the table. -/
  | table (name : String)
  /-- Selects a page. -/
  | page (number size : UInt64)
  /-- Requires a full-text match, or membership for an array. -/
  | must (field : String) (value : Json)
  | mustWith (field : String) (predicate : Predicate)
  | mustCompare (field operator : String) (value : Json)
  /-- Asks for a full-text match, or membership for an array. -/
  | should (field : String) (value : Json)
  | shouldWith (field : String) (predicate : Predicate)
  | shouldCompare (field operator : String) (value : Json)
  /-- Filters by an exact value, or by membership for an array. -/
  | filter (field : String) (value : Json)
  | filterWith (field : String) (predicate : Predicate)
deriving DecidableEq, Repr

namespace Setter

/-- The condition that compares a field with a value by an operator that is given as text. -/
def compare (field operator : String) (value : Json) : Except InvalidInput Condition := do
  let operator ← Operator.ofText operator
  Condition.compare field operator value

/-- The condition of a filter, whose predicate has to be exact. -/
def filterCondition (field : String) (predicate : Predicate) : Except InvalidInput Condition :=
  if predicate.isExact then Condition.new field predicate else .error .inexactFilter

/-- The draft after a setter. -/
def apply (setter : Setter) (draft : Draft) : Except InvalidInput Draft :=
  match setter with
  | .table name => draft.setTable name
  | .page number size => draft.setPage number size
  | .must field value => add .must (Condition.new field (.matching value))
  | .mustWith field predicate => add .must (Condition.new field predicate)
  | .mustCompare field operator value => add .must (compare field operator value)
  | .should field value => add .should (Condition.new field (.matching value))
  | .shouldWith field predicate => add .should (Condition.new field predicate)
  | .shouldCompare field operator value => add .should (compare field operator value)
  | .filter field value => add .filter (filterCondition field (.exact value))
  | .filterWith field predicate => add .filter (filterCondition field predicate)
where
  /-- Sets a condition in a section of the draft. -/
  add (target : Section) (condition : Except InvalidInput Condition) :
      Except InvalidInput Draft :=
    condition.map (draft.upsert target)

end Setter

/-- An operation that a client carries out, by the kind of its answer. -/
inductive Operation : Kind → Type
  /-- Searches with the drafted query. -/
  | get : Operation .hits
  /-- Stores one document. -/
  | insert (document : Document) : Operation .write
  /-- Stores documents in order. -/
  | insertAll (documents : List Document) : Operation .bulk
  /-- Fetches one document. -/
  | find (id : String) : Operation .fetch
  /-- Merges fields into a document. -/
  | update (id : String) (fields : Document) : Operation .write
  /-- Removes a document. -/
  | delete (id : String) : Operation .write
  | createTable (table : String) (schema : TableSchema) : Operation .acknowledgement
  | updateTable (table : String) (schema : TableSchema) : Operation .acknowledgement
  /-- Describes the named tables, or all tables when none is named. -/
  | tableInfo (tables : List String) : Operation .mappings
deriving DecidableEq, Repr

namespace Operation

/-- The name under which an operation is counted. -/
def name {kind : Kind} : Operation kind → String
  | .get => "search"
  | .insert _ => "insert"
  | .insertAll _ => "insert_all"
  | .find _ => "find_by_id"
  | .update _ _ => "update_by_id"
  | .delete _ => "delete_by_id"
  | .createTable _ _ => "create_table"
  | .updateTable _ _ => "update_table"
  | .tableInfo _ => "get_table_info"

/-- Whether the operation works on the drafted query and uses it up. -/
def isTerminal {kind : Kind} : Operation kind → Bool
  | .get | .insert _ | .insertAll _ | .find _ | .update _ _ | .delete _ => true
  | .createTable _ _ | .updateTable _ _ | .tableInfo _ => false

/-- Refused arguments as an error. -/
def checked {α : Type} (result : Except InvalidInput α) : Except Error α :=
  result.mapError .invalidInput

/-- A table that is created or changed has a name and a valid schema. -/
def checkSchema (table : String) (schema : TableSchema) : Except InvalidInput Unit :=
  match checkTable table with
  | .ok () => schema.validate
  | .error cause => .error cause

/-- The call that an operation makes, or what stands in its way.  A missing table comes before
everything else. -/
def plan {kind : Kind} (operation : Operation kind) (draft : Draft) : Except Error (Call kind) :=
  match operation with
  | .get => draft.compile.map .search
  | .insert document => do
      let table ← draft.requireTable
      (checked (Insertion.new table document)).map .index
  | .insertAll documents => do
      let table ← draft.requireTable
      (checked (Batch.new table documents)).map .bulk
  | .find id => do
      let table ← draft.requireTable
      (checked (Address.new table id)).map .get
  | .update id fields => do
      let table ← draft.requireTable
      (checked (Change.new table id fields)).map .update
  | .delete id => do
      let table ← draft.requireTable
      (checked (Address.new table id)).map .delete
  | .createTable table schema =>
      checked ((checkSchema table schema).map fun _ => .createTable table schema)
  | .updateTable table schema =>
      checked ((checkSchema table schema).map fun _ => .updateMapping table schema)
  | .tableInfo tables =>
      if tables.any fun table => table = "" then .error (.invalidInput .emptyTable)
      else .ok (.getMapping tables)

/-- The draft that an operation leaves. -/
def leaves {kind : Kind} (operation : Operation kind) (draft : Draft) : Draft :=
  if operation.isTerminal then .empty else draft

end Operation

/-- A client: the query it is putting together and what it has counted. -/
structure Client where
  draft : Draft
  tally : Tally
deriving DecidableEq, Repr

namespace Client

/-- A client that has done nothing. -/
def new : Client := ⟨.empty, .empty⟩

instance : Inhabited Client := ⟨new⟩

/-- Carries out a setter. -/
def set (client : Client) (setter : Setter) : Except InvalidInput Client :=
  (setter.apply client.draft).map fun draft => { client with draft }

/-- Forgets the drafted query. -/
def reset (client : Client) : Client := { client with draft := .empty }

/-- The search that the drafted query would make. -/
def compile (client : Client) : Except Error Search := client.draft.compile

/-- The kind of the error of a failed operation. -/
def failureKind? {α : Type} : Except Error α → Option String
  | .ok _ => none
  | .error error => some error.kind

/-- The tally once a call is about to be made: batches are counted before they are sent. -/
def beforeCall {kind : Kind} (tally : Tally) : Call kind → Tally
  | .bulk batch => tally.recordBatch batch.documentCount
  | _ => tally

/-- Carries out an operation that takes the given seconds: at most one call to the engine. -/
def perform {σ : Type} {kind : Kind} (engine : Engine σ) (operation : Operation kind)
    (seconds : Binary64) (client : Client) (state : σ) :
    Except Error kind.Answer × Client × σ :=
  let draft := operation.leaves client.draft
  match operation.plan client.draft with
  | .error error =>
      (.error error,
        ⟨draft, client.tally.record operation.name seconds (some error.kind)⟩, state)
  | .ok call =>
      let (result, state) := engine.answer call state
      let tally := beforeCall client.tally call
      (result, ⟨draft, tally.record operation.name seconds (failureKind? result)⟩, state)

end Client

/-- Anything that can be asked of a client. -/
inductive Action
  | set (setter : Setter)
  | reset
  | preview
  | perform (kind : Kind) (operation : Operation kind) (seconds : Binary64)
deriving Repr

namespace Action

/-- The client and the engine after an action. -/
def step {σ : Type} (engine : Engine σ) (action : Action) (client : Client) (state : σ) :
    Client × σ :=
  match action with
  | .set setter =>
      match client.set setter with
      | .ok client => (client, state)
      | .error _ => (client, state)
  | .reset => (client.reset, state)
  | .preview => (client, state)
  | .perform _ operation seconds => (client.perform engine operation seconds state).2

/-- The client and the engine after actions in order. -/
def run {σ : Type} (engine : Engine σ) : List Action → Client → σ → Client × σ
  | [], client, state => (client, state)
  | action :: rest, client, state =>
      let (client, state) := action.step engine client state
      run engine rest client state

end Action

end DocumentSearch
