import DocumentSearch.Proofs.Reports

/-!
# Failures keep their places

The answer to a batch has an item for each document.  Whatever stands in an item, it is counted: what
cannot be read as a report is itself reported as a failure.  So positions in the answer are positions
in the batch, and an item decides about its own document only.
-/

namespace DocumentSearch

namespace ItemReport

/-- Whether a value tells a report: an object or an array with a status of 16 bits, in which the other
fields may be missing or `null`.  Texts have to be texts, and an error may be anything. -/
structure IsToldBy (json : Json) (report : ItemReport) : Prop where
  form : match json with
    | .object entries => ∀ key ∈ ["_index", "_id", "status", "result", "error"],
        (Entries.keys entries).count key ≤ 1
    | .array items => items.length ≤ 5
    | _ => False
  index : Json.StandsFor .string (json.fieldAt? 0 "_index") report.index
  id : Json.StandsFor .string (json.fieldAt? 1 "_id") report.id
  status : json.fieldAt? 2 "status" = some (.number (.ofUInt16 report.status))
  result : Json.StandsFor .string (json.fieldAt? 3 "result") report.result
  error : Json.StandsFor (fun json => json) (json.fieldAt? 4 "error") report.error

/-- Whether the first value of an item tells a report. -/
def IsToldFirst (item : OrderedMap Json) (report : ItemReport) : Prop :=
  ∃ action json rest, item.entries = (action, json) :: rest ∧ report.IsToldBy json

/-- Whether an item is no report that its document was stored: it is empty, what it holds first tells
no report, or the report has an error or a status from 300 on. -/
def IsFailure (item : OrderedMap Json) : Prop :=
  match item.entries with
  | [] => True
  | (_, json) :: _ =>
      (∀ report : ItemReport, ¬report.IsToldBy json) ∨
        ∃ report : ItemReport, report.IsToldBy json ∧ (report.error ≠ none ∨ 300 ≤ report.status)

theorem nodup_keys_fields : (fields.map Json.Field.key).Nodup := by decide

theorem hasForm_iff {json : Json} :
    Json.Row.HasForm fields json ↔
      match json with
      | .object entries => ∀ key ∈ ["_index", "_id", "status", "result", "error"],
          (Entries.keys entries).count key ≤ 1
      | .array items => items.length ≤ 5
      | _ => False := by
  cases json <;> exact Iff.rfl

theorem ofJson?_eq_some_iff_row {json : Json} {report : ItemReport} :
    ofJson? json = some report ↔ ∃ row, Json.Row.ofJson? fields json = some row ∧
      row.optional? "_index" Json.asString? = some report.index ∧
      row.optional? "_id" Json.asString? = some report.id ∧
      row.required? "status" Json.asUInt16? = some report.status ∧
      row.optional? "result" Json.asString? = some report.result ∧
      row.optional? "error" some = some report.error := by
  simp only [ofJson?, Option.bind_eq_bind, Option.bind_eq_some_iff]
  constructor
  · rintro ⟨row, read, index, indexRead, id, idRead, status, statusRead, result, resultRead, error,
      errorRead, same⟩
    cases same
    exact ⟨row, read, indexRead, idRead, statusRead, resultRead, errorRead⟩
  · rintro ⟨row, read, indexRead, idRead, statusRead, resultRead, errorRead⟩
    exact ⟨row, read, _, indexRead, _, idRead, _, statusRead, _, resultRead, _, errorRead, rfl⟩

/-- The reader accepts exactly what tells a report. -/
theorem ofJson?_eq_some_iff {json : Json} {report : ItemReport} :
    ofJson? json = some report ↔ report.IsToldBy json := by
  have distinct := nodup_keys_fields
  rw [ofJson?_eq_some_iff_row]
  constructor
  · rintro ⟨row, read, index, id, status, result, error⟩
    exact ⟨hasForm_iff.mp (Json.Row.hasForm_of_ofJson? read),
      (Json.Row.optional?_iff_standsFor Json.inverts_asString? distinct read rfl).mp index,
      (Json.Row.optional?_iff_standsFor Json.inverts_asString? distinct read rfl).mp id,
      (Json.Row.required?_iff_fieldAt? Json.inverts_asUInt16? distinct read rfl).mp status,
      (Json.Row.optional?_iff_standsFor Json.inverts_asString? distinct read rfl).mp result,
      (Json.Row.optional?_iff_standsFor Json.inverts_some distinct read rfl).mp error⟩
  · intro told
    have given : ∀ place field, fields[place]? = some field → field.presence ≠ .defaulted →
        json.fieldAt? place field.key ≠ none := by
      intro place field listed required
      match place with
      | 0 | 1 | 3 | 4 =>
          cases listed
          exact absurd rfl required
      | 2 =>
          cases listed
          exact told.status.trans_ne (Option.some_ne_none _)
      | place + 5 => cases listed
    obtain ⟨row, read⟩ := Json.Row.exists_ofJson? (hasForm_iff.mpr told.form) given
    exact ⟨row, read,
      (Json.Row.optional?_iff_standsFor Json.inverts_asString? distinct read rfl).mpr told.index,
      (Json.Row.optional?_iff_standsFor Json.inverts_asString? distinct read rfl).mpr told.id,
      (Json.Row.required?_iff_fieldAt? Json.inverts_asUInt16? distinct read rfl).mpr told.status,
      (Json.Row.optional?_iff_standsFor Json.inverts_asString? distinct read rfl).mpr told.result,
      (Json.Row.optional?_iff_standsFor Json.inverts_some distinct read rfl).mpr told.error⟩

theorem IsToldBy.unique {json : Json} {left right : ItemReport} (leftTold : left.IsToldBy json)
    (rightTold : right.IsToldBy json) : left = right :=
  Option.some.inj ((ofJson?_eq_some_iff.mpr leftTold).symm.trans
    (ofJson?_eq_some_iff.mpr rightTold))

theorem isToldFirst_of_entries {item : OrderedMap Json} {action : String} {json : Json}
    {rest : List (String × Json)} (held : item.entries = (action, json) :: rest)
    {report : ItemReport} : IsToldFirst item report ↔ report.IsToldBy json := by
  constructor
  · rintro ⟨_, _, _, alsoHeld, told⟩
    cases held.symm.trans alsoHeld
    exact told
  · exact fun told => ⟨action, json, rest, held, told⟩

/-- An item is reported by what it holds first, if that tells a report, and by itself otherwise. -/
theorem ofItem_cases (item : OrderedMap Json) :
    IsToldFirst item (ofItem item) ∨
      (∀ report, ¬IsToldFirst item report) ∧ ofItem item = unreadable item := by
  unfold ofItem OrderedMap.values
  cases held : item.entries with
  | nil =>
      refine .inr ⟨?_, rfl⟩
      rintro _ ⟨_, _, _, filled, _⟩
      cases held.symm.trans filled
  | cons entry rest =>
      obtain ⟨action, json⟩ := entry
      cases read : ofJson? json with
      | some report =>
          refine .inl ((isToldFirst_of_entries held).mpr ?_)
          simpa [read] using ofJson?_eq_some_iff.mp read
      | none =>
          refine .inr ⟨fun report told => ?_, by simp [read]⟩
          have also := ofJson?_eq_some_iff.mpr ((isToldFirst_of_entries held).mp told)
          cases read.symm.trans also

theorem isError_iff {report : ItemReport} :
    report.isError = true ↔ report.error ≠ none ∨ 300 ≤ report.status := by
  rw [isError, Bool.or_eq_true, decide_eq_true_eq, Option.isSome_iff_ne_none]

/-- An item is reported as an error exactly when it is a failure. -/
theorem isError_ofItem_iff (item : OrderedMap Json) :
    (ofItem item).isError = true ↔ IsFailure item := by
  unfold IsFailure
  obtain ⟨action, json, rest, held, told⟩ | ⟨untold, reported⟩ := ofItem_cases item
  · rw [isError_iff, held]
    constructor
    · exact fun failed => .inr ⟨_, told, failed⟩
    · rintro (untold | ⟨report, alsoTold, failed⟩)
      · exact absurd told (untold _)
      · rwa [told.unique alsoTold]
  · have failed : (unreadable item).isError = true := rfl
    rw [reported]
    refine iff_of_true failed ?_
    split
    · trivial
    · rename_i held
      exact .inl fun report told => untold report ((isToldFirst_of_entries held).mpr told)

end ItemReport

namespace BulkReport

theorem getElem?_itemReports (report : BulkReport) (position : Nat) :
    report.itemReports[position]? = report.items[position]?.map ItemReport.ofItem :=
  List.getElem?_map

theorem mem_failedItems_iff {report : BulkReport} {position : Nat} {outcome : ItemReport} :
    (position, outcome) ∈ report.failedItems ↔
      report.itemReports[position]? = some outcome ∧ outcome.isError = true := by
  simp only [failedItems, List.mem_map, List.mem_filter, Prod.exists, Prod.mk.injEq]
  constructor
  · rintro ⟨_, _, ⟨listed, failed⟩, rfl, rfl⟩
    exact ⟨List.mem_zipIdx_iff_getElem?.mp listed, failed⟩
  · rintro ⟨listed, failed⟩
    exact ⟨outcome, position, ⟨List.mem_zipIdx_iff_getElem?.mpr listed, failed⟩, rfl, rfl⟩

theorem pairwise_failedItems (report : BulkReport) :
    (report.failedItems.map Prod.fst).Pairwise (· < ·) := by
  have positions : report.failedItems.map Prod.fst =
      (report.itemReports.zipIdx.filter fun entry => entry.1.isError).map Prod.snd := by
    rw [failedItems, List.map_map]
    rfl
  rw [positions]
  refine List.Pairwise.sublist (List.filter_sublist.map Prod.snd) ?_
  rw [List.zipIdx_map_snd]
  exact List.pairwise_lt_range'

/-- An answer to a batch is read whatever its items hold.  It has one outcome for each item, in order,
which depends on this item only: the report that its first value tells, or, when there is no such
report, the item itself as an error with status zero.  The failures are listed by rising positions, and
they are the outcomes of the items that are empty, tell no report, or report an error or a status from
300 on. -/
theorem failures_keep_places (report : BulkReport) :
    ofJson? report.toJson = some report ∧
    report.itemReports.length = report.items.length ∧
    (∀ (other : BulkReport) (position place : Nat),
      other.items[place]? = report.items[position]? →
        other.itemReports[place]? = report.itemReports[position]?) ∧
    (∀ (position : Nat) (item : OrderedMap Json), report.items[position]? = some item →
      ∃ outcome, report.itemReports[position]? = some outcome ∧
        (ItemReport.IsToldFirst item outcome ∨
          (∀ told, ¬ItemReport.IsToldFirst item told) ∧
          outcome = ⟨none, none, 0, none, some (Json.ofMap item)⟩)) ∧
    (report.failedItems.map Prod.fst).Pairwise (· < ·) ∧
    ∀ (position : Nat) (outcome : ItemReport), (position, outcome) ∈ report.failedItems ↔
      report.itemReports[position]? = some outcome ∧
        ∃ item, report.items[position]? = some item ∧ ItemReport.IsFailure item := by
  refine ⟨report.ofJson?_toJson, List.length_map .., ?_, ?_, report.pairwise_failedItems, ?_⟩
  · intro other position place same
    rw [getElem?_itemReports, getElem?_itemReports, same]
  · intro position item listed
    refine ⟨ItemReport.ofItem item, ?_, ItemReport.ofItem_cases item⟩
    rw [getElem?_itemReports, listed]
    rfl
  · intro position outcome
    rw [mem_failedItems_iff]
    refine and_congr_right fun reported => ?_
    rw [getElem?_itemReports, Option.map_eq_some_iff] at reported
    obtain ⟨item, listed, rfl⟩ := reported
    simp only [listed, Option.some.injEq, exists_eq_left', ItemReport.isError_ofItem_iff]

/-- An empty item, one without an object, one without a status, one given as an array, one with a
status that is too large and one with an error of `null`. -/
def mixedReport : BulkReport :=
  ⟨5, true, [.empty, ⟨[("index", .number (.ofUInt16 7))], by decide⟩,
    ⟨[("index", .object [("_id", .string "2")])], by decide⟩,
    ⟨[("create", .array [.null, .string "3", .number (.ofUInt16 201)]), ("index", .null)], by decide⟩,
    ⟨[("index", .object [("status", .number (.ofUInt64 65536))])], by decide⟩,
    ⟨[("index", .object [("status", .number (.ofUInt16 299)), ("error", .null)])], by decide⟩]⟩

example : mixedReport.failedItems.map Prod.fst = [0, 1, 2, 4] := by decide

end BulkReport

end DocumentSearch
