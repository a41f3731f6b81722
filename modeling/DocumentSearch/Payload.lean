import DocumentSearch.Document

/-!
# Payloads

What is handed to the engine for each operation on documents.  Building a payload checks the
arguments; nothing is sent here.

A batch is a table with the records to store in it.  Its written form has two lines for each record:
an action that names the table and the identifier, if there is one, and then the fields.
-/

namespace DocumentSearch

/-- A record to be stored in a table. -/
structure Insertion where
  table : String
  record : Record
deriving DecidableEq, Repr

/-- Records to be stored in one table, in order. -/
structure Batch where
  table : String
  records : List Record
deriving DecidableEq, Repr

/-- The place of one document. -/
structure Address where
  table : String
  id : String
deriving DecidableEq, Repr

/-- Fields to be merged into a stored document. -/
structure Change where
  address : Address
  fields : Document
deriving DecidableEq, Repr

/-- Tables have a name. -/
def checkTable (table : String) : Except InvalidInput Unit :=
  if table = "" then .error .emptyTable else .ok ()

/-- Identifiers are not empty. -/
def checkId (id : String) : Except InvalidInput Unit :=
  if id = "" then .error .emptyId else .ok ()

namespace Insertion

/-- The insertion of a document, which must hold a field besides its id. -/
def new (table : String) (document : Document) : Except InvalidInput Insertion := do
  checkTable table
  if document.isEmpty then .error .emptyData
  let record ← document.split
  if record.body.isEmpty then .error .onlyId
  return ⟨table, record⟩

end Insertion

namespace Batch

/-- Splits documents from left to right; `position` is that of the first one. -/
def split (position : Nat) : List Document → Except InvalidInput (List Record)
  | [] => .ok []
  | document :: rest => do
      let record ← document.split
      if record.body.isEmpty then .error (.emptyDocument position)
      let records ← split (position + 1) rest
      return record :: records

/-- The batch of one or more documents. -/
def new (table : String) (documents : List Document) : Except InvalidInput Batch := do
  checkTable table
  let records ← split 0 documents
  if records.isEmpty then .error .emptyData
  return ⟨table, records⟩

/-- A line of the written form. -/
inductive Line
  /-- Says where the record of the next line is to be stored. -/
  | action (table : String) (id : Option String)
  | source (body : Document)
deriving DecidableEq, Repr

/-- The written form of a line. -/
def Line.toJson : Line → Json
  | .action table id =>
      .object [("index", .object (("_index", .string table) ::
        (id.map fun text => ("_id", Json.string text)).toList))]
  | .source body => Json.ofMap body

/-- The lines of a batch. -/
def lines (batch : Batch) : List Line :=
  batch.records.flatMap fun record => [.action batch.table record.id, .source record.body]

/-- The number of documents: each has two lines. -/
def documentCount (batch : Batch) : Nat := batch.lines.length / 2

theorem length_lines (batch : Batch) : batch.lines.length = 2 * batch.records.length := by
  obtain ⟨table, records⟩ := batch
  induction records with
  | nil => rfl
  | cons record rest ih =>
      have next : lines ⟨table, record :: rest⟩ =
          .action table record.id :: .source record.body :: lines ⟨table, rest⟩ := rfl
      rw [next, List.length_cons, List.length_cons, ih]
      rfl

theorem documentCount_eq (batch : Batch) : batch.documentCount = batch.records.length := by
  rw [documentCount, length_lines]
  exact Nat.mul_div_cancel_left _ (by decide)

/-- The lines as one array. -/
def toJson (batch : Batch) : Json := .array (batch.lines.map Line.toJson)

/-- Every line in compact form, each ended by a line break. -/
def linesText (lines : List Line) : List Char :=
  lines.flatMap fun line => line.toJson.compact ++ ['\n']

/-- The lines one below the other. -/
def toLinesText (batch : Batch) : String := String.ofList (linesText batch.lines)

end Batch

namespace Address

/-- The address of a document. -/
def new (table id : String) : Except InvalidInput Address := do
  checkTable table
  checkId id
  return ⟨table, id⟩

end Address

namespace Change

/-- The change of a document by some fields. -/
def new (table id : String) (fields : Document) : Except InvalidInput Change := do
  let address ← Address.new table id
  if fields.isEmpty then .error .emptyData
  return ⟨address, fields⟩

/-- The body of an update request. -/
def toJson (change : Change) : Json := .object [("doc", Json.ofMap change.fields)]

end Change

end DocumentSearch
