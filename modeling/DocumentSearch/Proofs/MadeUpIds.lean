import DocumentSearch.Proofs.History

/-!
# Made-up identifiers

Made-up identifiers are numbered in one row for all tables, so no two of them are the same as long as
64 bits can number them.  But documents also give identifiers, and one that was given before can be
made up later: then the document that has it is replaced.  An identifier in use has been made up or
was given by a document (`Store.IsExplainedBy`), so this is the only way in which a document without
an identifier can cost another one its place.
-/

namespace DocumentSearch

/-- Documents that come to be stored with the tables that they come to, oldest first. -/
abbrev Arrivals := List (String × Document)

/-- How many of the documents give no identifier. -/
def Arrivals.unidentified (arrivals : Arrivals) : Nat :=
  arrivals.countP fun arrival =>
    match arrival.2.id? with
    | .ok none => true
    | _ => false

namespace Store

/-- Stores a document under the identifier that it gives, or else under the next one. -/
def keep (store : Store) (arrival : String × Document) : Store :=
  match arrival.2.split with
  | .ok record => (store.put arrival.1 record).2
  | .error _ => store

/-- Stores documents in order. -/
def keepAll (store : Store) (arrivals : Arrivals) : Store := arrivals.foldl keep store

/-- Whether an identifier was made up for each document without one, and every identifier in use was
given by a document that came to its table or is one of these. -/
structure IsExplainedBy (store : Store) (arrivals : Arrivals) : Prop where
  assigned : store.assigned = .ofNat (Arrivals.unidentified arrivals)
  found : ∀ address, store.find? address ≠ none →
    (∃ document, (address.table, document) ∈ arrivals ∧ document.id? = .ok (some address.id)) ∨
      ∃ count, 0 < count ∧ count ≤ Arrivals.unidentified arrivals ∧
        address.id = madeUpId (.ofNat count)

/-- Whether a store has made up as many identifiers as another one and has no document that the other
one does not have. -/
structure IsWithin (after before : Store) : Prop where
  assigned : after.assigned = before.assigned
  found : ∀ address, before.find? address = none → after.find? address = none

end Store

/-- The documents that an operation stores in a table when it succeeds. -/
def Operation.arrivals {kind : Kind} (operation : Operation kind) (table? : Option String) :
    Arrivals :=
  match operation, table? with
  | .insert document, some table => [(table, document)]
  | .insertAll documents, some table => documents.map fun document => (table, document)
  | _, _ => []

namespace Session

/-- The documents that are stored in a turn. -/
def arrivals (session : Session) : Turn → Arrivals
  | .act who (.perform _ operation seconds) =>
      if (session.answerTo who operation seconds).isOk then
        operation.arrivals (session.clients who).draft.table
      else []
  | _ => []

/-- The documents that are stored in turns in order. -/
def allArrivals (session : Session) : List Turn → Arrivals
  | [] => []
  | turn :: rest => session.arrivals turn ++ (session.take turn).allArrivals rest

end Session

theorem Document.id?_eq_none {document : Document}
    (unidentified : document.get? idField = none ∨ document.get? idField = some .null) :
    document.id? = .ok none := by
  unfold id?
  obtain absent | null := unidentified
  · rw [absent]
  · rw [null]
    rfl

theorem Arrivals.unidentified_append (earlier later : Arrivals) :
    unidentified (earlier ++ later) = unidentified earlier + unidentified later :=
  List.countP_append

theorem Arrivals.unidentified_cons (arrival : String × Document) (rest : Arrivals) :
    unidentified (arrival :: rest) = unidentified [arrival] + unidentified rest :=
  unidentified_append [arrival] rest

/-! ## Storing one document -/

namespace Store

variable {store : Store}

theorem IsWithin.refl (store : Store) : store.IsWithin store := ⟨rfl, fun _ missing => missing⟩

theorem madeUpId_injective : Function.Injective madeUpId := by
  intro left right same
  have digits : Nat.toDigits 10 left.toNat = Nat.toDigits 10 right.toNat :=
    String.ofList_injective ((String.append_right_inj "auto-").mp same)
  refine UInt64.toNat_inj.mp ?_
  calc
    left.toNat = Nat.ofDigitChars 10 (Nat.toDigits 10 left.toNat) 0 :=
        Nat.ofDigitChars_ten_toDigits.symm
    _ = Nat.ofDigitChars 10 (Nat.toDigits 10 right.toNat) 0 := by rw [digits]
    _ = right.toNat := Nat.ofDigitChars_ten_toDigits

/-- As many identifiers in a row as can be counted are different. -/
theorem madeUpId_add_ne (start : UInt64) {left right : Nat} (positive : 0 < left)
    (later : left < right) (counted : right ≤ 2 ^ 64) :
    madeUpId (start + .ofNat left) ≠ madeUpId (start + .ofNat right) := by
  intro same
  have numbers := congrArg UInt64.toNat ((UInt64.add_right_inj start).mp (madeUpId_injective same))
  rw [UInt64.toNat_ofNat', UInt64.toNat_ofNat'] at numbers
  omega

theorem keep_of_unidentified {document : Document} (unidentified : document.id? = .ok none)
    (table : String) :
    store.keep (table, document) =
      store.nextId.2.putAt ⟨table, madeUpId (store.assigned + 1)⟩
        (document.erase Document.idField) := by
  have split : document.split = .ok ⟨none, document.erase Document.idField⟩ :=
    Document.split_eq_ok_iff.mpr ⟨unidentified, rfl⟩
  simp only [keep, split]
  rfl

theorem keep_of_identified {document : Document} {id : String}
    (identified : document.id? = .ok (some id)) (table : String) :
    store.keep (table, document) =
      store.putAt ⟨table, id⟩ (document.erase Document.idField) := by
  have split : document.split = .ok ⟨some id, document.erase Document.idField⟩ :=
    Document.split_eq_ok_iff.mpr ⟨identified, rfl⟩
  simp only [keep, split]
  rfl

/-- A document is stored under the identifier that it gives or under the next one, and not at all
when what it gives is no identifier. -/
theorem keep_cases (store : Store) (arrival : String × Document) :
    (∃ id, arrival.2.id? = .ok (some id) ∧
        store.keep arrival =
          store.putAt ⟨arrival.1, id⟩ (arrival.2.erase Document.idField)) ∨
      (arrival.2.id? = .ok none ∧
        store.keep arrival =
          store.nextId.2.putAt ⟨arrival.1, madeUpId (store.assigned + 1)⟩
            (arrival.2.erase Document.idField)) ∨
      ((∃ cause, arrival.2.id? = .error cause) ∧ store.keep arrival = store) := by
  obtain ⟨table, document⟩ := arrival
  cases identified : document.id? with
  | ok id =>
      cases id with
      | some id => exact .inl ⟨id, rfl, keep_of_identified identified table⟩
      | none => exact .inr (.inl ⟨rfl, keep_of_unidentified identified table⟩)
  | error cause =>
      exact .inr (.inr ⟨⟨cause, rfl⟩, by simp [keep, Document.split, identified, Except.map]⟩)

theorem assigned_keep (store : Store) (arrival : String × Document) :
    (store.keep arrival).assigned = store.assigned + .ofNat (Arrivals.unidentified [arrival]) := by
  obtain ⟨_, given, kept⟩ | ⟨given, kept⟩ | ⟨⟨_, given⟩, kept⟩ := store.keep_cases arrival
  · simp [kept, Arrivals.unidentified, given, putAt, withTable]
  · simp [kept, Arrivals.unidentified, given, putAt, withTable, nextId]
  · simp [kept, Arrivals.unidentified, given]

theorem assigned_keepAll (store : Store) (arrivals : Arrivals) :
    (store.keepAll arrivals).assigned =
      store.assigned + .ofNat (Arrivals.unidentified arrivals) := by
  induction arrivals generalizing store with
  | nil => exact (UInt64.add_zero _).symm
  | cons arrival rest ih =>
      rw [Arrivals.unidentified_cons, UInt64.ofNat_add, ← UInt64.add_assoc, ← assigned_keep]
      exact ih _

/-! ## Explained stores -/

theorem isExplainedBy_empty : empty.IsExplainedBy [] :=
  ⟨rfl, fun _ found => (found rfl).elim⟩

theorem IsExplainedBy.of_isWithin {arrivals : Arrivals} (explained : store.IsExplainedBy arrivals)
    {after : Store} (within : after.IsWithin store) : after.IsExplainedBy arrivals where
  assigned := within.assigned.trans explained.assigned
  found address found := explained.found address (mt (within.found address) found)

theorem IsExplainedBy.keep {arrivals : Arrivals} (explained : store.IsExplainedBy arrivals)
    (arrival : String × Document) : (store.keep arrival).IsExplainedBy (arrivals ++ [arrival]) where
  assigned := by
    rw [assigned_keep, explained.assigned, Arrivals.unidentified_append, UInt64.ofNat_add]
  found := by
    have earlier : ∀ address, store.find? address ≠ none →
        (∃ document, (address.table, document) ∈ arrivals ++ [arrival] ∧
            document.id? = .ok (some address.id)) ∨
          ∃ count, 0 < count ∧ count ≤ Arrivals.unidentified (arrivals ++ [arrival]) ∧
            address.id = madeUpId (.ofNat count) := by
      intro address found
      refine (explained.found address found).imp ?_ ?_
      · rintro ⟨document, member, given⟩
        exact ⟨document, List.mem_append_left _ member, given⟩
      · rintro ⟨count, positive, within, same⟩
        exact ⟨count, positive, Arrivals.unidentified_append arrivals [arrival] ▸
          Nat.le_add_right_of_le within, same⟩
    intro address found
    obtain ⟨id, given, kept⟩ | ⟨given, kept⟩ | ⟨_, kept⟩ := store.keep_cases arrival
    · rw [kept, find?_putAt] at found
      split at found
      · rename_i same
        subst same
        exact .inl ⟨arrival.2, List.mem_append_right _ (List.mem_singleton_self _), given⟩
      · exact earlier address found
    · rw [kept, find?_putAt] at found
      split at found
      · rename_i same
        subst same
        refine .inr ⟨Arrivals.unidentified arrivals + 1, Nat.succ_pos _, ?_, ?_⟩
        · simp [Arrivals.unidentified, given]
        · rw [UInt64.ofNat_add, ← explained.assigned]
          rfl
      · exact earlier address found
    · rw [kept] at found
      exact earlier address found

theorem IsExplainedBy.keepAll {past : Arrivals} (explained : store.IsExplainedBy past)
    (arrivals : Arrivals) : (store.keepAll arrivals).IsExplainedBy (past ++ arrivals) := by
  induction arrivals generalizing past store with
  | nil =>
      rw [List.append_nil]
      exact explained
  | cons arrival rest ih =>
      rw [List.append_cons]
      exact ih (explained.keep arrival)

theorem IsExplainedBy.exists_given {arrivals : Arrivals} (explained : store.IsExplainedBy arrivals)
    (few : Arrivals.unidentified arrivals < 2 ^ 64) {table : String}
    (taken : store.find? ⟨table, madeUpId (store.assigned + 1)⟩ ≠ none) :
    ∃ given, (table, given) ∈ arrivals ∧
      given.id? = .ok (some (madeUpId (store.assigned + 1))) := by
  obtain given | ⟨count, positive, within, same⟩ := explained.found _ taken
  · exact given
  · refine (madeUpId_add_ne 0 positive (Nat.lt_add_one_of_le within) few ?_).elim
    rw [UInt64.zero_add, UInt64.zero_add, UInt64.ofNat_add, ← explained.assigned]
    exact same.symm

theorem find?_keep_of_ne {arrival : String × Document} {address : Address}
    (other : arrival.2.id? = .ok none → madeUpId (store.assigned + 1) ≠ address.id) :
    (store.keep arrival).find? address ≠ none ↔
      (arrival.1 = address.table ∧ arrival.2.id? = .ok (some address.id)) ∨
        store.find? address ≠ none := by
  obtain ⟨id, given, kept⟩ | ⟨given, kept⟩ | ⟨⟨cause, given⟩, kept⟩ := store.keep_cases arrival
  · rw [kept, given, find?_putAt]
    by_cases same : arrival.1 = address.table ∧ id = address.id
    · simp [same]
    · have apart : (⟨arrival.1, id⟩ : Address) ≠ address := by
        rintro rfl
        exact same ⟨rfl, rfl⟩
      simp [same, apart]
  · have apart : (⟨arrival.1, madeUpId (store.assigned + 1)⟩ : Address) ≠ address := by
      rintro rfl
      exact other given rfl
    rw [kept, given, find?_putAt, if_neg apart]
    simp
    rfl
  · simp [kept, given]

/-- An address that is none of those that are made up for documents is in use after these were stored
when it was before or when one of them gave it. -/
theorem find?_keepAll_of_ne {arrivals : Arrivals} {address : Address}
    (others : ∀ count, 0 < count → count ≤ Arrivals.unidentified arrivals →
      madeUpId (store.assigned + .ofNat count) ≠ address.id) :
    (store.keepAll arrivals).find? address ≠ none ↔
      (∃ given, (address.table, given) ∈ arrivals ∧ given.id? = .ok (some address.id)) ∨
        store.find? address ≠ none := by
  induction arrivals generalizing store with
  | nil => simp [keepAll]
  | cons arrival rest ih =>
      have counts := Arrivals.unidentified_cons arrival rest
      have first : (∃ given, (address.table, given) ∈ arrival :: rest ∧
          given.id? = .ok (some address.id)) ↔
            (arrival.1 = address.table ∧ arrival.2.id? = .ok (some address.id)) ∨
              ∃ given, (address.table, given) ∈ rest ∧ given.id? = .ok (some address.id) := by
        obtain ⟨chosen, document⟩ := arrival
        simp only [List.mem_cons, Prod.mk.injEq, or_and_right, exists_or, and_assoc,
          exists_and_left, exists_eq_left, @eq_comm _ chosen]
      have later := @ih (store.keep arrival) fun count positive within => by
        rw [assigned_keep, UInt64.add_assoc, ← UInt64.ofNat_add]
        exact others _ (Nat.add_pos_right _ positive) (counts ▸ Nat.add_le_add_left within _)
      have now : arrival.2.id? = .ok none → madeUpId (store.assigned + 1) ≠ address.id :=
        fun given => others 1 Nat.one_pos (by simp [Arrivals.unidentified, given])
      refine later.trans ?_
      rw [find?_keep_of_ne now, first, or_assoc, or_left_comm]

/-- The identifier that is made up after documents were stored is in use when it was before or when
one of them gave it. -/
theorem find?_keepAll_madeUpId {arrivals : Arrivals}
    (few : Arrivals.unidentified arrivals < 2 ^ 64) (table : String) :
    let id := madeUpId ((store.keepAll arrivals).assigned + 1)
    (store.keepAll arrivals).find? ⟨table, id⟩ ≠ none ↔
      (∃ given, (table, given) ∈ arrivals ∧ given.id? = .ok (some id)) ∨
        store.find? ⟨table, id⟩ ≠ none := by
  intro id
  refine find?_keepAll_of_ne fun count positive within => ?_
  simp only [id, assigned_keepAll, UInt64.add_assoc]
  rw [← UInt64.ofNat_one, ← UInt64.ofNat_add]
  exact madeUpId_add_ne _ positive (Nat.lt_add_one_of_le within) few

/-- What a document without an identifier does to a store: it is found under the next identifier,
nothing else changes, and a document that was found there is replaced. -/
theorem keep_unidentified {document : Document} (unidentified : document.id? = .ok none)
    (store : Store) (table : String) :
    let address : Address := ⟨table, madeUpId (store.assigned + 1)⟩
    (∀ other, (store.keep (table, document)).find? other =
        if address = other then some (document.erase Document.idField)
        else store.find? other) ∧
      (store.keep (table, document)).documentCount table =
        store.documentCount table + if store.find? address = none then 1 else 0 := by
  intro address
  rw [keep_of_unidentified unidentified]
  exact ⟨fun other => find?_putAt store.nextId.2 address other _,
    documentCount_putAt store.nextId.2 address _⟩

theorem putAll_eq_keepAll (table : String) {documents : List Document} {records : List Record}
    (stored : List.Forall₂ Document.IsStoredAs documents records) (store : Store) :
    (putAll table records store).2 =
      store.keepAll (documents.map fun document => (table, document)) := by
  induction stored generalizing store with
  | nil => rfl
  | @cons document record others rest first _ ih =>
      have kept : store.keep (table, document) = (store.put table record).2 := by
        simp only [keep, Document.split_eq_ok_iff.mpr ⟨first.1, first.2.1⟩]
      change (putAll table rest (store.put table record).2).2 = (store.keep _).keepAll _
      rw [ih, kept]

end Store

/-! ## Sessions -/

/-- A planned operation either stores the documents that come with it, in order, or comes without
documents and adds none. -/
theorem Operation.answer_cases {kind : Kind} {operation : Operation kind} {draft : Draft}
    {call : Call kind} (planned : operation.plan draft = .ok call) (store : Store) :
    ((store.answer call).1.isOk = true ∧
        (store.answer call).2 = store.keepAll (operation.arrivals draft.table)) ∨
      operation.arrivals draft.table = [] ∧ (store.answer call).2.IsWithin store := by
  cases calls_of_plan planned with
  | get | find | updateTable | tableInfo => exact .inr ⟨rfl, .refl store⟩
  | createTable =>
      exact .inr ⟨rfl, rfl, fun address missing => (store.find?_create _ address).trans missing⟩
  | @insert table _ _ selected _ stored =>
      rw [selected]
      exact .inl ⟨rfl, Store.putAll_eq_keepAll table (.cons stored .nil) store⟩
  | @insertAll table _ _ selected _ _ stored =>
      rw [selected, Store.answer_bulk]
      exact .inl ⟨rfl, Store.putAll_eq_keepAll table stored store⟩
  | @update table id =>
      refine .inr ⟨rfl, ?_⟩
      cases found : store.find? ⟨table, id⟩ with
      | none =>
          simp only [Store.answer, found]
          exact .refl store
      | some body =>
          simp only [Store.answer, found]
          refine ⟨rfl, fun address missing => ?_⟩
          rw [Store.find?_putAt, if_neg, missing]
          rintro rfl
          simp [found] at missing
  | @delete table id =>
      refine .inr ⟨rfl, ?_⟩
      cases found : store.find? ⟨table, id⟩ with
      | none =>
          simp only [Store.answer, found]
          exact .refl store
      | some body =>
          simp only [Store.answer, found]
          refine ⟨rfl, fun address missing => ?_⟩
          rw [Store.find?_remove, missing, ite_self]

namespace Session

theorem take_cases (session : Session) (turn : Turn) :
    (session.take turn).store = session.store.keepAll (session.arrivals turn) ∨
      session.arrivals turn = [] ∧ (session.take turn).store.IsWithin session.store := by
  cases turn with
  | failNext failure | clearLog => exact .inl rfl
  | act who action =>
      cases action with
      | reset | preview => exact .inl rfl
      | set setter =>
          rw [store, recorder_take_set]
          exact .inl rfl
      | perform kind operation seconds =>
          obtain ⟨⟨error, failed⟩, same⟩ | ⟨call, planned, answered, after⟩ :=
            session.perform_cases who operation seconds
          · left
            rw [same, arrivals, failed]
            rfl
          · rw [after, arrivals, answered]
            obtain ⟨succeeded, stored⟩ | ⟨without, within⟩ :=
              Operation.answer_cases planned session.store
            · rw [if_pos succeeded]
              exact .inl stored
            · rw [without, ite_self]
              exact .inr ⟨rfl, within⟩

theorem store_take_of_arrivals {session : Session} {turn : Turn}
    (several : session.arrivals turn ≠ []) :
    (session.take turn).store = session.store.keepAll (session.arrivals turn) :=
  (session.take_cases turn).resolve_right fun ⟨without, _⟩ => several without

theorem isExplainedBy_run (session : Session) {past : Arrivals}
    (explained : session.store.IsExplainedBy past) (turns : List Turn) :
    (session.run turns).store.IsExplainedBy (past ++ session.allArrivals turns) := by
  induction turns generalizing session past with
  | nil =>
      rw [allArrivals, List.append_nil]
      exact explained
  | cons turn rest ih =>
      have next : (session.take turn).store.IsExplainedBy (past ++ session.arrivals turn) := by
        obtain stored | ⟨without, within⟩ := session.take_cases turn
        · rw [stored]
          exact explained.keepAll _
        · rw [without, List.append_nil]
          exact explained.of_isWithin within
      rw [allArrivals, ← List.append_assoc]
      exact ih _ next

/-- What becomes of a document that gives no identifier and is stored, alone or in a batch.  It gets
the next made-up identifier, and nothing else changes; so the table grows by one and keeps all its
documents exactly when that identifier is not in use.  Where it is, its document is replaced.  As long
as 64 bits can number the documents without identifiers, it is in use exactly when a document before
it in the batch gave it or the session left a document at its address, and only ever after a document
that came to the same table gave it. -/
theorem made_up_id_fresh_iff (turns : List Turn) (turn : Turn) {before after : Arrivals}
    {table : String} {document : Document}
    (stored : (start.run turns).arrivals turn = before ++ (table, document) :: after)
    (unidentified : document.get? Document.idField = none ∨
      document.get? Document.idField = some .null) :
    let now := (start.run turns).store.keepAll before
    let next := now.keep (table, document)
    let address : Address := ⟨table, Store.madeUpId (now.assigned + 1)⟩
    ((start.run turns).take turn).store = next.keepAll after ∧
      (∀ other, next.find? other =
        if address = other then some (document.erase Document.idField) else now.find? other) ∧
      ((next.documentCount table = now.documentCount table + 1 ∧
          ∀ other body, now.find? other = some body → next.find? other = some body) ↔
        now.find? address = none) ∧
      (now.find? address ≠ none → next.documentCount table = now.documentCount table) ∧
      (Arrivals.unidentified before < 2 ^ 64 →
        (now.find? address ≠ none ↔
          (∃ given, (table, given) ∈ before ∧ given.id? = .ok (some address.id)) ∨
            ∃ body, (start.history turns).Holds address body)) ∧
      (Arrivals.unidentified (start.allArrivals turns ++ before) < 2 ^ 64 →
        now.find? address ≠ none →
        ∃ given, (table, given) ∈ start.allArrivals turns ++ before ∧
          given.id? = .ok (some address.id)) := by
  intro now next address
  obtain ⟨found, count⟩ := Store.keep_unidentified (Document.id?_eq_none unidentified) now table
  have past : (start.run turns).store.IsExplainedBy (start.allArrivals turns) :=
    isExplainedBy_run start Store.isExplainedBy_empty turns
  have explained : now.IsExplainedBy (start.allArrivals turns ++ before) := past.keepAll before
  -- What follows is the turn as a whole, then growth both ways, then what a taken identifier means.
  refine ⟨?_, found, ⟨?_, ?_⟩, ?_, ?_, fun few => explained.exists_given few⟩
  · rw [store_take_of_arrivals (by simp [stored]), stored]
    exact List.foldl_append
  · rintro ⟨grown, -⟩
    rw [count] at grown
    by_contra taken
    rw [if_neg taken] at grown
    omega
  · intro free
    refine ⟨by rw [count, if_pos free], fun other body held => ?_⟩
    rw [found, if_neg, held]
    rintro rfl
    simp [address, free] at held
  · intro taken
    rw [count, if_neg taken, Nat.add_zero]
  · intro few
    simp only [← find?_run_eq_some_iff, ← Option.ne_none_iff_exists']
    exact Store.find?_keepAll_madeUpId few table

/-- A document of a batch gets the second made-up identifier, which nobody gave: the table grows from
two documents to three. -/
theorem made_up_id_fresh_iff_bob :
    let turns : List Turn :=
      [.act 0 (.set (.table "users")),
        .act 0 (.perform .write (.insert (.ofList [("name", .string "ann")])) (.ofNat 1)),
        .act 0 (.set (.table "users"))]
    let given : Document := .ofList [("id", .string "7"), ("name", .string "eve")]
    let bob : Document := .ofList [("id", .null), ("name", .string "bob")]
    let turn : Turn := .act 0 (.perform .bulk (.insertAll [given, bob]) (.ofNat 1))
    let now := (start.run turns).store.keepAll [("users", given)]
    let next := now.keep ("users", bob)
    ((start.run turns).arrivals turn = [("users", given), ("users", bob)] ∧
        bob.get? Document.idField = some .null ∧
        Arrivals.unidentified [("users", given)] < 2 ^ 64) ∧
      next.find? ⟨"users", "auto-2"⟩ = some (.ofList [("name", .string "bob")]) ∧
      now.documentCount "users" = 2 ∧ next.documentCount "users" = now.documentCount "users" + 1 ∧
      (∀ other body, now.find? other = some body → next.find? other = some body) ∧
      ¬ ∃ body, (start.history turns).Holds ⟨"users", "auto-2"⟩ body := by
  intro turns given bob turn now next
  have stored : (start.run turns).arrivals turn = [("users", given)] ++ ("users", bob) :: [] := by
    rfl
  have unidentified : bob.get? Document.idField = some .null := by rfl
  have free : now.find? ⟨"users", Store.madeUpId (now.assigned + 1)⟩ = none := by decide
  have few : Arrivals.unidentified [("users", given)] < 2 ^ 64 := by decide
  obtain ⟨_, found, kept, _, taken, _⟩ := made_up_id_fresh_iff turns turn stored (.inr unidentified)
  obtain ⟨grown, everything⟩ := kept.mpr free
  have second : Store.madeUpId (now.assigned + 1) = "auto-2" := by decide
  have never : ¬ ∃ body, (start.history turns).Holds ⟨"users", "auto-2"⟩ body := by
    rw [← second]
    exact fun held => (taken few).mpr (.inr held) free
  have here : next.find? ⟨"users", "auto-2"⟩ = some (.ofList [("name", .string "bob")]) :=
    (found ⟨"users", "auto-2"⟩).trans (by decide)
  exact ⟨⟨stored, unidentified, few⟩, here, by decide, grown, everything, never⟩

/-- A user is stored under an identifier that looks like a made-up one.  Then another user comes
without an identifier, gets the same one and takes the place of the first: the table still has one
document, and the first user is gone. -/
theorem not_made_up_id_fresh :
    let turns : List Turn :=
      [.act 0 (.set (.table "users")),
        .act 0 (.perform .write (.insert (.ofList
          [("id", .string "auto-1"), ("name", .string "alice")])) (.ofNat 1)),
        .act 0 (.set (.table "users"))]
    let bob : Document := .ofList [("name", .string "bob")]
    let turn : Turn := .act 0 (.perform .write (.insert bob) (.ofNat 1))
    let now := start.run turns
    let next := now.take turn
    (now.arrivals turn = [("users", bob)] ∧ bob.get? Document.idField = none) ∧
      now.answerTo 0 (.insert bob) (.ofNat 1) = .ok ⟨"users", "auto-1", some 1, "updated"⟩ ∧
      now.store.find? ⟨"users", "auto-1"⟩ = some (.ofList [("name", .string "alice")]) ∧
      next.store.find? ⟨"users", "auto-1"⟩ = some bob ∧
      now.store.documentCount "users" = 1 ∧ next.store.documentCount "users" = 1 := by
  intro turns bob turn now next
  refine ⟨⟨rfl, rfl⟩, ?_, ?_, ?_, ?_, ?_⟩ <;> decide

end Session

end DocumentSearch
