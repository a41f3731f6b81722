import DocumentSearch.Payload
import DocumentSearch.Query.Compile
import DocumentSearch.Response.Bulk
import DocumentSearch.Response.Hits
import DocumentSearch.Schema.Table

/-!
# Engines

An engine answers calls.  The type of a call says what kind of answer it gets, so an engine cannot
answer a search with the report of a write.  An engine is given by its answers and by what a call
leaves behind; a client knows nothing else about it.
-/

namespace DocumentSearch

/-- The kinds of answers. -/
inductive Kind
  | acknowledgement
  | mappings
  | write
  | bulk
  | fetch
  | hits
deriving DecidableEq, Repr

namespace Kind

/-- The answers of a kind. -/
abbrev Answer : Kind → Type
  | .acknowledgement => Acknowledgement
  | .mappings => Json
  | .write => WriteReport
  | .bulk => BulkReport
  | .fetch => FetchReport
  | .hits => SearchReport

/-- The written form of an answer. -/
def encode : (kind : Kind) → kind.Answer → Json
  | .acknowledgement => Acknowledgement.toJson
  | .mappings => fun json => json
  | .write => WriteReport.toJson
  | .bulk => BulkReport.toJson
  | .fetch => FetchReport.toJson
  | .hits => SearchReport.toJson

/-- Reads an answer. -/
def decode? : (kind : Kind) → Json → Option kind.Answer
  | .acknowledgement => Acknowledgement.ofJson?
  | .mappings => some
  | .write => WriteReport.ofJson?
  | .bulk => BulkReport.ofJson?
  | .fetch => FetchReport.ofJson?
  | .hits => SearchReport.ofJson?

/-- Takes an answer off a text. -/
def shape : Kind → Json.NestedReader Json
  | .acknowledgement => Json.Shape.record Acknowledgement.fields
  | .mappings => Json.Shape.any
  | .write => Json.Shape.record WriteReport.fields
  | .bulk => Json.Shape.record BulkReport.fields
  | .fetch => Json.Shape.record FetchReport.fields
  | .hits => Json.Shape.record SearchReport.fields

/-- The answer that a text holds. -/
def ofText (kind : Kind) (text : String) : Except Json.Fault kind.Answer :=
  Json.Shape.decodeText kind.shape kind.decode? text

/-- The answer that bytes hold. -/
def ofBytes (kind : Kind) (bytes : List UInt8) : Except Json.Fault kind.Answer :=
  Json.Shape.decodeBytes kind.shape kind.decode? bytes

end Kind

/-- A call to the engine. -/
inductive Call : Kind → Type
  | createTable (table : String) (schema : TableSchema) : Call .acknowledgement
  | updateMapping (table : String) (schema : TableSchema) : Call .acknowledgement
  /-- Describes the named tables, or all tables when none is named. -/
  | getMapping (tables : List String) : Call .mappings
  | index (insertion : Insertion) : Call .write
  | bulk (batch : Batch) : Call .bulk
  | get (address : Address) : Call .fetch
  | update (change : Change) : Call .write
  | delete (address : Address) : Call .write
  | search (request : Search) : Call .hits
deriving DecidableEq, Repr

namespace Call

/-- The name of a call. -/
def name {kind : Kind} : Call kind → String
  | .createTable _ _ => "create_index"
  | .updateMapping _ _ => "update_mapping"
  | .getMapping _ => "get_mapping"
  | .index _ => "index"
  | .bulk _ => "bulk"
  | .get _ => "get"
  | .update _ => "update"
  | .delete _ => "delete"
  | .search _ => "search"

/-- The table that a call is about, if its form names exactly one. -/
def table? {kind : Kind} : Call kind → Option String
  | .createTable table _ => some table
  | .updateMapping table _ => some table
  | .getMapping _ => none
  | .index insertion => some insertion.table
  | .bulk _ => none
  | .get address => some address.table
  | .update change => some change.address.table
  | .delete address => some address.table
  | .search request => some request.table

/-- The stored document that a call is about. -/
def address? {kind : Kind} : Call kind → Option Address
  | .get address => some address
  | .update change => some change.address
  | .delete address => some address
  | _ => none

/-- The name of a call with its table. -/
def display {kind : Kind} (call : Call kind) : String :=
  match call.table? with
  | some table => call.name ++ "(" ++ table ++ ")"
  | none => call.name

end Call

/-- An engine with states of type `σ`. -/
structure Engine (σ : Type) where
  /-- The answer to a call and the state it leaves. -/
  answer : {kind : Kind} → Call kind → σ → Except Error kind.Answer × σ

end DocumentSearch
