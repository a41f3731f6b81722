import DocumentSearch.Proofs.Store
import DocumentSearch.Proofs.WellFormed

/-!
# Pages partition a table

A search shows the documents of its table at the positions of its page.  Positions are counted in
exact numbers.  An offset is cut to 64 bits, but then it lies behind every document, and so does the
exact one (`Store.page_eq_slice`).  So the pages of one size, taken one after the other, show every
document of the table once.
-/

namespace DocumentSearch

/-- The items from one position on and in front of another one. -/
def Page.slice {α : Type} (lower upper : Nat) (items : List α) : List α :=
  (items.zipIdx.filter fun item => lower ≤ item.2 ∧ item.2 < upper).map Prod.fst

/-- The identifiers and documents that a search shows. -/
def SearchReport.entries (report : SearchReport) : List (String × Document) :=
  report.page.hits.map fun hit => (hit.id, hit.source)

/-- The answer that a client gets when it asks for a page and then searches. -/
def Session.searchPage (session : Session) (who : Nat) (seconds : Binary64)
    (number size : UInt64) : Except Error SearchReport :=
  (session.take (.act who (.set (.page number size)))).answerTo who .get seconds

namespace Page

variable {α : Type}

theorem map_filter_zipIdx (lower upper start : Nat) (items : List α) :
    ((items.zipIdx start).filter fun item => lower ≤ item.2 ∧ item.2 < upper).map Prod.fst =
      (items.take (upper - start)).drop (lower - start) := by
  induction items generalizing start with
  | nil => simp
  | cons item rest ih =>
      rw [List.zipIdx_cons, List.filter_cons]
      by_cases within : lower ≤ start ∧ start < upper
      · have left : upper - start = upper - (start + 1) + 1 := by omega
        have before : lower - start = 0 := by omega
        have after : lower - (start + 1) = 0 := by omega
        rw [if_pos (by simpa using within), List.map_cons, ih, left, before, after]
        rfl
      · rw [if_neg (by simpa using within), ih]
        by_cases past : upper ≤ start
        · have here : upper - start = 0 := by omega
          have later : upper - (start + 1) = 0 := by omega
          rw [here, later, List.take_zero, List.take_zero, List.drop_nil, List.drop_nil]
        · have left : upper - start = upper - (start + 1) + 1 := by omega
          have skip : lower - start = lower - (start + 1) + 1 := by omega
          rw [left, skip]
          rfl

theorem slice_eq_drop_take (lower upper : Nat) (items : List α) :
    slice lower upper items = (items.take upper).drop lower :=
  map_filter_zipIdx lower upper 0 items

theorem slice_eq_nil {lower upper : Nat} {items : List α} (past : items.length ≤ lower) :
    slice lower upper items = [] := by
  rw [slice_eq_drop_take, List.drop_eq_nil_of_le]
  exact Nat.le_trans (List.length_take_le' upper items) past

/-- Slices of one size, one after the other, give the items up to the end of the last slice. -/
theorem flatMap_slice (size count : Nat) (items : List α) :
    ((List.range' 1 count).flatMap fun number =>
      slice ((number - 1) * size) (number * size) items) = items.take (count * size) := by
  induction count with
  | zero => simp
  | succ count ih =>
      have last : slice ((1 + count - 1) * size) ((1 + count) * size) items =
          (items.drop (count * size)).take size := by
        have skipped : 1 + count - 1 = count := by omega
        have upper : (1 + count) * size - count * size = size := by
          rw [Nat.add_mul, Nat.one_mul, Nat.add_sub_cancel]
        rw [slice_eq_drop_take, skipped, List.drop_take, upper]
      rw [List.range'_concat, List.flatMap_append, ih, List.flatMap_singleton, Nat.one_mul, last,
        Nat.succ_mul, List.take_add]

theorem pages_le {length size : Nat} (sized : 1 ≤ size) : (length + size - 1) / size ≤ length := by
  rw [← Nat.lt_succ_iff, Nat.div_lt_iff_lt_mul sized, Nat.succ_mul]
  have := Nat.le_mul_of_pos_right length sized
  omega

theorem le_pages_mul {length size : Nat} (sized : 1 ≤ size) :
    length ≤ (length + size - 1) / size * size := by
  have whole := Nat.div_add_mod' (length + size - 1) size
  have rest := Nat.mod_lt (length + size - 1) sized
  omega

end Page

/-- A page of a table of less than 2^64 documents is a slice of the table in exact positions. -/
theorem Store.page_eq_slice {store : Store} {table : String} (query : Query) {page : Page}
    (numbered : 1 ≤ page.number.toNat) (few : store.documentCount table < 2 ^ 64) :
    store.page ⟨table, query, page.offset, page.limit⟩ =
      Page.slice ((page.number.toNat - 1) * page.size.toNat)
        (page.number.toNat * page.size.toNat) (store.table table).entries := by
  have length : (store.table table).entries.length < 2 ^ 64 := few
  have past : ∀ skipped, 2 ^ 64 - 1 ≤ skipped →
      (store.table table).entries.drop skipped = [] :=
    fun skipped far => List.drop_eq_nil_of_le (by omega)
  obtain ⟨before, number⟩ : ∃ before, page.number.toNat = before + 1 :=
    ⟨page.number.toNat - 1, by omega⟩
  change ((store.table table).entries.drop page.offset.toNat).take page.size.toNat = _
  rw [Page.slice_eq_drop_take, Page.offset_toNat, number, List.drop_take, Nat.add_sub_cancel,
    Nat.succ_mul, Nat.add_sub_cancel_left]
  by_cases fits : before * page.size.toNat ≤ 2 ^ 64 - 1
  · rw [Nat.min_eq_left fits]
  · have beyond : 2 ^ 64 - 1 ≤ before * page.size.toNat := by omega
    rw [Nat.min_eq_right beyond, past _ beyond, past _ (Nat.le_refl _)]

theorem SearchReport.exists_reports (ask : Nat → Except Error SearchReport)
    (shown : Nat → List (String × Document)) {numbers : List Nat}
    (answered : ∀ number ∈ numbers,
      ∃ report, ask number = .ok report ∧ report.entries = shown number) :
    ∃ reports : List SearchReport, numbers.map ask = reports.map .ok ∧
      reports.flatMap entries = numbers.flatMap shown := by
  induction numbers with
  | nil => exact ⟨[], rfl, rfl⟩
  | cons number rest ih =>
      obtain ⟨⟨report, first, firstShown⟩, others⟩ := List.forall_mem_cons.mp answered
      obtain ⟨reports, later, laterShown⟩ := ih others
      exact ⟨report :: reports, by rw [List.map_cons, first, later, List.map_cons],
        by rw [List.flatMap_cons, List.flatMap_cons, firstShown, laterShown]⟩

theorem Action.draftAfter_page {number size : UInt64} (numbered : 1 ≤ number) (sized : 1 ≤ size)
    (draft : Draft) :
    (Action.set (.page number size)).draftAfter draft = { draft with page := ⟨number, size⟩ } := by
  have numberNe : number ≠ 0 := Page.one_le_iff.mp numbered
  have sizeNe : size ≠ 0 := Page.one_le_iff.mp sized
  simp [draftAfter, Setter.apply, Draft.setPage, Page.new, numberNe, sizeNe, Except.map]

namespace Session

variable {session : Session}

theorem draft_take (session : Session) (who : Nat) (action : Action) :
    ((session.take (.act who action)).clients who).draft =
      action.draftAfter (session.clients who).draft := by
  rw [← Action.draft_step Recorder.engine action (session.clients who) session.recorder]
  simp [take]

/-- A search on a page is answered with the slice of the table, and with the size of the table. -/
theorem search_of_page (unplanned : session.recorder.failure = none) {table : String}
    (few : session.store.documentCount table ≤ 2 ^ 63 - 1) {who : Nat} {page : Page}
    (selected : (session.clients who).draft.table = some table)
    (paged : (session.clients who).draft.page = page) (numbered : 1 ≤ page.number)
    (seconds : Binary64) :
    ∃ report, session.answerTo who .get seconds = .ok report ∧
      report.total.toNat = session.store.documentCount table ∧
      report.page.hits = (Page.slice ((page.number.toNat - 1) * page.size.toNat)
        (page.number.toNat * page.size.toNat) (session.store.table table).entries).map
          fun entry => ⟨table, entry.1, some .one, entry.2⟩ := by
  have planned : Operation.get.plan (session.clients who).draft =
      .ok (.search ⟨table, (session.clients who).draft.query, page.offset, page.limit⟩) := by
    rw [Operation.plan, Draft.compile_of_some selected, paged]
    rfl
  refine ⟨_, answerTo_of_plan unplanned planned seconds, ?_, ?_⟩
  · exact UInt64.toNat_ofNat_of_lt' (Nat.lt_of_le_of_lt few (by decide))
  · rw [← Store.page_eq_slice _ (UInt64.le_iff_toNat_le.mp numbered) (by omega)]
    rfl

theorem searchPage_of_selected (unplanned : session.recorder.failure = none) {table : String}
    (few : session.store.documentCount table ≤ 2 ^ 63 - 1) {who : Nat}
    (selected : (session.clients who).draft.table = some table) (seconds : Binary64)
    {number size : UInt64} (numbered : 1 ≤ number) (sized : 1 ≤ size) :
    ∃ report, session.searchPage who seconds number size = .ok report ∧
      report.entries = Page.slice ((number.toNat - 1) * size.toNat) (number.toNat * size.toNat)
        (session.store.table table).entries := by
  let asking := session.take (.act who (.set (.page number size)))
  have same : asking.recorder = session.recorder := recorder_take_set ..
  have draft : (asking.clients who).draft =
      { (session.clients who).draft with page := ⟨number, size⟩ } := by
    rw [draft_take, Action.draftAfter_page numbered sized]
  have unplannedNow : asking.recorder.failure = none := by rw [same, unplanned]
  have fewNow : asking.store.documentCount table ≤ 2 ^ 63 - 1 := by
    rw [store, same]
    exact few
  have selectedNow : (asking.clients who).draft.table = some table := by rw [draft, selected]
  have pagedNow : (asking.clients who).draft.page = ⟨number, size⟩ := by rw [draft]
  obtain ⟨report, answered, _, hits⟩ :=
    search_of_page unplannedNow fewNow selectedNow pagedNow numbered seconds
  refine ⟨report, answered, ?_⟩
  rw [SearchReport.entries, hits, List.map_map, store, same]
  exact List.map_id _

/-- A search returns the documents of the table on its page, counted in exact numbers, and the size
of the table.  Hence the pages of one size together show every document once, and later pages show
none. -/
theorem pages_partition (session : Session) {table : String}
    (unplanned : session.recorder.failure = none)
    (few : session.store.documentCount table ≤ 2 ^ 63 - 1) :
    let entries := (session.store.table table).entries
    (∀ (who : Nat) (seconds : Binary64) (number size : UInt64), 1 ≤ number → 1 ≤ size →
      (session.clients who).draft.table = some table →
      (session.clients who).draft.page = ⟨number, size⟩ →
      ∃ report, session.answerTo who .get seconds = .ok report ∧
        report.total.toNat = entries.length ∧
        report.page.hits = (Page.slice ((number.toNat - 1) * size.toNat)
          (number.toNat * size.toNat) entries).map
            fun entry => ⟨table, entry.1, some .one, entry.2⟩) ∧
    ∀ (who : Nat) (seconds : Binary64) (size : UInt64), 1 ≤ size →
      (session.clients who).draft.table = some table →
      let pages := (entries.length + size.toNat - 1) / size.toNat
      (∃ reports : List SearchReport, ((List.range' 1 pages).map fun number =>
            session.searchPage who seconds (.ofNat number) size) = reports.map .ok ∧
          reports.flatMap SearchReport.entries = entries) ∧
        ∀ number : UInt64, pages < number.toNat →
          ∃ report, session.searchPage who seconds number size = .ok report ∧
            report.entries = [] := by
  intro entries
  have length : entries.length ≤ 2 ^ 63 - 1 := few
  refine ⟨?_, ?_⟩
  · intro who seconds number size numbered _ selected paged
    exact search_of_page unplanned few selected paged numbered seconds
  · intro who seconds size sized selected pages
    have sizePos : 1 ≤ size.toNat := UInt64.le_iff_toNat_le.mp sized
    have shown := fun {number : UInt64} (numbered : 1 ≤ number) =>
      searchPage_of_selected unplanned few selected seconds numbered sized
    have covered : entries.length ≤ pages * size.toNat := Page.le_pages_mul sizePos
    have pagesFew : pages ≤ entries.length := Page.pages_le sizePos
    clear_value pages
    constructor
    · have each : ∀ number ∈ List.range' 1 pages,
          ∃ report, session.searchPage who seconds (.ofNat number) size = .ok report ∧
            report.entries =
              Page.slice ((number - 1) * size.toNat) (number * size.toNat) entries := by
        intro number member
        obtain ⟨positive, within⟩ := List.mem_range'_1.mp member
        have small : number ≤ 2 ^ 63 - 1 := by omega
        have exactly : (UInt64.ofNat number).toNat = number :=
          UInt64.toNat_ofNat_of_lt' (Nat.lt_of_le_of_lt small (by decide))
        have numbered : 1 ≤ UInt64.ofNat number :=
          UInt64.le_iff_toNat_le.mpr (by rw [exactly]; exact positive)
        obtain ⟨report, answered, all⟩ := shown numbered
        rw [exactly] at all
        exact ⟨report, answered, all⟩
      obtain ⟨reports, answered, all⟩ := SearchReport.exists_reports
        (fun number => session.searchPage who seconds (.ofNat number) size) _ each
      refine ⟨reports, answered, ?_⟩
      rw [all, Page.flatMap_slice, List.take_of_length_le covered]
    · intro number later
      have numbered : 1 ≤ number := UInt64.le_iff_toNat_le.mpr (by change 1 ≤ _; omega)
      obtain ⟨report, answered, all⟩ := shown numbered
      refine ⟨report, answered, ?_⟩
      rw [all]
      apply Page.slice_eq_nil
      exact Nat.le_trans covered (Nat.mul_le_mul_right _ (by omega))

/-- Three users are stored in one batch.  Then a client selects their table, sets a condition that
none of them meets, and asks for the second page of two. -/
def threeUsers : Session :=
  start.run
    [.act 0 (.set (.table "users")),
      .act 0 (.perform .bulk (.insertAll (["ann", "bob", "eve"].map fun name =>
        .ofList [("id", .string name), ("guest", .bool false)])) (.ofNat 1)),
      .act 1 (.set (.table "users")), .act 1 (.set (.must "guest" (.bool true))),
      .act 1 (.set (.page 2 2))]

/-- The second page shows the last user, two pages show all of them, and a page that begins behind
2^64 documents shows none. -/
theorem pages_partition_threeUsers :
    (threeUsers.recorder.failure = none ∧ threeUsers.store.documentCount "users" ≤ 2 ^ 63 - 1 ∧
        (threeUsers.clients 1).draft.table = some "users" ∧
        (threeUsers.clients 1).draft.page = ⟨2, 2⟩) ∧
      (∃ report, threeUsers.answerTo 1 .get (.ofNat 1) = .ok report ∧
        report.total.toNat = 3 ∧ report.page.hits.map Hit.id = ["eve"]) ∧
      (∃ reports : List SearchReport, ([1, 2].map fun number =>
          threeUsers.searchPage 1 (.ofNat 1) (.ofNat number) 2) = reports.map .ok ∧
        (reports.flatMap SearchReport.entries).map Prod.fst = ["ann", "bob", "eve"]) ∧
      ∃ report, threeUsers.searchPage 1 (.ofNat 1) 9223372036854775809 2 = .ok report ∧
        report.entries = [] := by
  have three : threeUsers.store.documentCount "users" = 3 := by rfl
  have few : threeUsers.store.documentCount "users" ≤ 2 ^ 63 - 1 := by
    rw [three]
    decide
  obtain ⟨onPage, allPages⟩ := pages_partition threeUsers rfl few
  obtain ⟨report, answered, total, hits⟩ := onPage 1 (.ofNat 1) 2 2 (by decide) (by decide) rfl rfl
  obtain ⟨⟨reports, shown, every⟩, later⟩ := allPages 1 (.ofNat 1) 2 (by decide) rfl
  have far : 2 < (9223372036854775809 : UInt64).toNat := by decide
  exact ⟨⟨rfl, few, rfl, rfl⟩, ⟨report, answered, total, by rw [hits]; rfl⟩,
    ⟨reports, shown, by rw [every]; rfl⟩, later _ far⟩

end Session

end DocumentSearch
