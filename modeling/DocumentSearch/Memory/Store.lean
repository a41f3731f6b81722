import DocumentSearch.Engine

/-!
# A store in memory

Tables of documents, each under its identifier.  Through `find?` the store is a map from addresses
to documents: storing, merging and removing act on one address and leave the others alone.
Searching takes no notice of conditions; it pages through a table in stored order.
-/

namespace DocumentSearch

/-- The documents of a table under their identifiers, in the order in which they were first
stored. -/
abbrev Table := OrderedMap Document

/-- Tables under their names, and how many identifiers have been made up so far, counted in 64
bits. -/
structure Store where
  tables : OrderedMap Table
  assigned : UInt64
deriving DecidableEq, Repr

namespace Store

/-- The store without tables. -/
def empty : Store := ⟨.empty, 0⟩

instance : Inhabited Store := ⟨empty⟩

/-- The documents of a table; a table that does not exist has none. -/
def table (store : Store) (name : String) : Table := (store.tables.get? name).getD .empty

/-- The document at an address. -/
def find? (store : Store) (address : Address) : Option Document :=
  (store.table address.table).get? address.id

/-- How many documents a table has. -/
def documentCount (store : Store) (name : String) : Nat := (store.table name).size

/-- Replaces the documents of a table. -/
def withTable (store : Store) (name : String) (table : Table) : Store :=
  { store with tables := store.tables.insert name table }

/-- The identifier made up for the record number `count`. -/
def madeUpId (count : UInt64) : String := "auto-" ++ toString count

/-- What storing a record did. -/
structure Stored where
  id : String
  /-- Whether there was no document under the identifier. -/
  created : Bool
deriving DecidableEq, Repr

/-- Stores a body under an identifier. -/
def putAt (store : Store) (address : Address) (body : Document) : Store :=
  store.withTable address.table ((store.table address.table).insert address.id body)

/-- Makes up the next identifier. -/
def nextId (store : Store) : String × Store :=
  (madeUpId (store.assigned + 1), { store with assigned := store.assigned + 1 })

/-- Stores a record; without an identifier it gets the next one. -/
def put (store : Store) (table : String) (record : Record) : Stored × Store :=
  let (id, store) := match record.id with
    | some id => (id, store)
    | none => store.nextId
  let address := ⟨table, id⟩
  (⟨id, (store.find? address).isNone⟩, store.putAt address record.body)

/-- Stores records in order. -/
def putAll (table : String) : List Record → Store → List Stored × Store
  | [], store => ([], store)
  | record :: rest, store =>
      let (stored, store) := store.put table record
      let (others, store) := putAll table rest store
      (stored :: others, store)

/-- Makes sure that a table exists. -/
def create (store : Store) (name : String) : Store := store.withTable name (store.table name)

/-- Removes a document. -/
def remove (store : Store) (address : Address) : Store :=
  store.withTable address.table ((store.table address.table).erase address.id)

/-- The names of the tables in ascending order. -/
def tableNames (store : Store) : List String :=
  store.tables.keys.mergeSort fun left right => decide (left ≤ right)

/-- The mappings of the named tables, or of all: nothing is known about their fields. -/
def describe (store : Store) (names : List String) : Json :=
  .object ((store.tableNames.filter fun name => names.isEmpty || names.contains name).map
    fun name => (name, .object [("mappings", .object [])]))

/-- The part of a table that a search asks for. -/
def page (store : Store) (search : Search) : List (String × Document) :=
  ((store.table search.table).entries.drop search.body.offset.toNat).take search.body.limit.toNat

/-- The report on a search: the page, every document with the same score, and the size of the
table. -/
def search (store : Store) (request : Search) : SearchReport where
  took := 0
  timedOut := false
  page :=
    { total := some ⟨UInt64.ofNat (store.documentCount request.table), some "eq"⟩
      maxScore := some .one
      hits := (store.page request).map fun entry => ⟨request.table, entry.1, some .one, entry.2⟩ }

/-- The item that reports on a stored record of a batch. -/
def bulkItem (table : String) (stored : Stored) : OrderedMap Json :=
  OrderedMap.empty.insert "index" (.object
    [("_index", .string table), ("_id", .string stored.id),
     ("status", .number (.ofUInt16 201)), ("result", .string "created")])

/-- Stores what lines say, two at a time: an action and the source behind it.  Two lines that are no
such pair say nothing, and neither does a single line at the end. -/
def putLines : List Batch.Line → Store → List (OrderedMap Json) × Store
  | .action table id :: .source body :: rest, store =>
      let (stored, store) := store.put table ⟨id, body⟩
      let (items, store) := putLines rest store
      (bulkItem table stored :: items, store)
  | _ :: _ :: rest, store => putLines rest store
  | [_], store | [], store => ([], store)

/-- The error for an address without a document. -/
def missing (address : Address) : Error := .notFound address.table address.id

/-- The answer to a call. -/
def answer {kind : Kind} (call : Call kind) (store : Store) : Except Error kind.Answer × Store :=
  match call with
  | .createTable name _ => (.ok ⟨true, some true, some name⟩, store.create name)
  | .updateMapping _ _ => (.ok ⟨true, none, none⟩, store)
  | .getMapping names => (.ok (store.describe names), store)
  | .index insertion =>
      let (stored, after) := store.put insertion.table insertion.record
      (.ok ⟨insertion.table, stored.id, some 1, if stored.created then "created" else "updated"⟩,
        after)
  | .bulk batch =>
      let (items, after) := putLines batch.lines store
      (.ok ⟨0, false, items⟩, after)
  | .get address =>
      (match store.find? address with
        | some body => .ok ⟨address.table, address.id, some 1, true, some body⟩
        | none => .error (missing address), store)
  | .update change =>
      match store.find? change.address with
      | some body =>
          (.ok ⟨change.address.table, change.address.id, some 2, "updated"⟩,
            store.putAt change.address (body.merge change.fields))
      | none => (.error (missing change.address), store)
  | .delete address =>
      match store.find? address with
      | some _ => (.ok ⟨address.table, address.id, some 2, "deleted"⟩, store.remove address)
      | none => (.error (missing address), store)
  | .search request => (.ok (store.search request), store)

/-- The lines of a batch say that its records are to be stored in order. -/
theorem putLines_lines (batch : Batch) (store : Store) :
    putLines batch.lines store =
      ((putAll batch.table batch.records store).1.map (bulkItem batch.table),
        (putAll batch.table batch.records store).2) := by
  obtain ⟨table, records⟩ := batch
  induction records generalizing store with
  | nil => rfl
  | cons record rest ih =>
      have first : putLines (Batch.lines ⟨table, record :: rest⟩) store =
          (bulkItem table (store.put table record).1 ::
              (putLines (Batch.lines ⟨table, rest⟩) (store.put table record).2).1,
            (putLines (Batch.lines ⟨table, rest⟩) (store.put table record).2).2) := rfl
      rw [first, ih]
      rfl

theorem answer_bulk (batch : Batch) (store : Store) :
    store.answer (.bulk batch) =
      (.ok ⟨0, false, (putAll batch.table batch.records store).1.map (bulkItem batch.table)⟩,
        (putAll batch.table batch.records store).2) := by
  simp only [answer, putLines_lines]

end Store

end DocumentSearch
