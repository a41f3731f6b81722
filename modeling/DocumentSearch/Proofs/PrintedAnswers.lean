import DocumentSearch.CommandLine.Run
import DocumentSearch.Proofs.Reports
import DocumentSearch.Proofs.Shapes

/-!
# Printed answers are read back

The program prints an answer in its normal form.  What was printed is read as the same answer, by its
shape or as any other value, when the form is legible.  The reader rounds twice, so a document may come
back with the neighbour of a double; the number of matches and the identifiers come back in any case.
-/

namespace DocumentSearch

open Json (Field Row)
open Json.Shape (Accepts)

namespace Json

/-- Whether records are read from every text that they are written as, by their shape or as any other
value, and are read back whenever they are legible. -/
structure Survives {α : Type} (fields : List Field) (encode : α → Json)
    (decode? : Json → Option α) : Prop extends Normalises fields encode decode? where
  rereads : ∀ value text, (encode value).IsWrittenAs text →
    ofText text = reread depthLimit (encode value) ∧
    Shape.decodeText (Shape.record fields) decode? text =
      ofText text >>= fun found => (decode? found).elim (.error .mismatch) .ok
  legible : ∀ json value text, decode? json = some value → (encode value).IsWrittenAs text →
    (ofText text = .ok (encode value) ↔ (encode value).IsLegible depthLimit) ∧
    ((encode value).IsLegible depthLimit →
      Shape.decodeText (Shape.record fields) decode? text = .ok value)

/-- Records whose fields have the shapes that they are written in are read back from every text. -/
theorem Normalises.survives {α : Type} {fields : List Field} {encode : α → Json}
    {decode? : Json → Option α} (normalises : Normalises fields encode decode?)
    (accepted : ∀ value, Accepts (Shape.record fields) (encode value)) :
    Survives fields encode decode? where
  toNormalises := normalises
  rereads value _ written :=
    ⟨ofText_eq_reread written, Shape.decodeText_of_accepts (accepted value) written⟩
  legible json value text read written := by
    have back : ofText text = .ok (encode value) ↔ (encode value).IsLegible depthLimit := by
      rw [ofText_eq_reread written, reread_eq_ok_iff]
    refine ⟨back, fun legible => ?_⟩
    rw [Shape.decodeText_of_accepts (accepted value) written, back.mpr legible]
    simp only [bind, Except.bind, (normalises.settles json value read).1]
    rfl

theorem accepts_ofOption {α : Type} {shape : NestedReader Json} {encode : α → Json}
    (each : ∀ value, Accepts shape (encode value)) (filled : ∀ value, encode value ≠ .null)
    (held : Option α) : Accepts (Shape.nullable shape) (ofOption encode held) := by
  cases held with
  | none => exact Shape.accepts_null shape
  | some value => exact Shape.accepts_nullable (each value) (filled value)

theorem accepts_ofMap (map : OrderedMap Json) : Accepts Shape.map (ofMap map) :=
  Shape.accepts_map map.entries

theorem accepts_optionalString (held : Option String) :
    Accepts (Shape.nullable Shape.string) (ofOption .string held) :=
  accepts_ofOption Shape.accepts_string (fun _ => nofun) held

theorem accepts_uInt64 (value : UInt64) :
    Accepts (Shape.natBelow UInt64.size) (.number (.ofUInt64 value)) := by
  obtain ⟨number, read, -⟩ := Option.map_eq_some_iff.mp (inverts_asUInt64?.back value)
  exact Shape.accepts_natBelow (Option.isSome_of_eq_some read)

theorem accepts_uInt16 (value : UInt16) :
    Accepts (Shape.natBelow UInt16.size) (.number (.ofUInt16 value)) := by
  obtain ⟨number, read, -⟩ := Option.map_eq_some_iff.mp (inverts_asUInt16?.back value)
  exact Shape.accepts_natBelow (Option.isSome_of_eq_some read)

theorem accepts_optionalUInt64 (held : Option UInt64) :
    Accepts (Shape.nullable (Shape.natBelow UInt64.size))
      (ofOption (fun value => .number (.ofUInt64 value)) held) :=
  accepts_ofOption accepts_uInt64 (fun _ => nofun) held

theorem accepts_optionalScore (held : Option Score) :
    Accepts (Shape.nullable Shape.double) (ofOption Score.toJson held) :=
  accepts_ofOption (fun _ => Shape.accepts_double _) (fun _ => nofun) held

theorem Row.given?_of_reread {fields : List Field} {entries : List (String × Json)} {depth : Nat}
    {json : Json} {row : Row} (read : reread depth (.object entries) = .ok json)
    (taken : ofJson? fields json = some row) (keys : Entries.keys entries = fields.map Field.key)
    (distinct : (fields.map Field.key).Nodup) (key : String) {value : Json}
    (given : Entries.get? key entries = some value) :
    ∃ again, reread (depth - 1) value = .ok again ∧ row.given? key = some again := by
  cases depth with
  | zero => cases read
  | succ depth =>
      obtain ⟨found, known, rfl⟩ := (reread_object_eq_ok_iff (keys ▸ distinct)).mp read
      rw [ofJson?_object_of_keys ((keys_of_rereadEntries known).trans keys) distinct] at taken
      cases taken
      exact get?_of_rereadEntries known given

theorem exists_rereadItems {depth : Nat} {items : List Json} {json : Json}
    (read : reread depth (.array items) = .ok json) :
    ∃ found, rereadItems (depth - 1) items = .ok found ∧ .array found = json := by
  cases depth with
  | zero => cases read
  | succ depth => exact map_eq_ok.mp read

end Json

/-! ## The answers -/

open Json.Shape

theorem Acknowledgement.accepts (answer : Acknowledgement) : Accepts (record fields) answer.toJson :=
  accepts_record
    (.cons ⟨rfl, accepts_bool answer.acknowledged⟩
      (.cons ⟨rfl, Json.accepts_ofOption accepts_bool (fun _ => nofun) answer.shardsAcknowledged⟩
        (.cons ⟨rfl, Json.accepts_optionalString answer.index⟩ .nil)))
    (by decide)

theorem WriteReport.accepts (report : WriteReport) : Accepts (record fields) report.toJson :=
  accepts_record
    (.cons ⟨rfl, accepts_string report.index⟩
      (.cons ⟨rfl, accepts_string report.id⟩
        (.cons ⟨rfl, Json.accepts_optionalUInt64 report.version⟩
          (.cons ⟨rfl, accepts_string report.result⟩ .nil))))
    (by decide)

theorem FetchReport.accepts (report : FetchReport) : Accepts (record fields) report.toJson :=
  accepts_record
    (.cons ⟨rfl, accepts_string report.index⟩
      (.cons ⟨rfl, accepts_string report.id⟩
        (.cons ⟨rfl, Json.accepts_optionalUInt64 report.version⟩
          (.cons ⟨rfl, accepts_bool report.found⟩
            (.cons ⟨rfl, Json.accepts_ofOption Json.accepts_ofMap (fun _ => nofun) report.source⟩
              .nil)))))
    (by decide)

theorem ItemReport.accepts (report : ItemReport) : Accepts (record fields) report.toJson :=
  accepts_record
    (.cons ⟨rfl, Json.accepts_optionalString report.index⟩
      (.cons ⟨rfl, Json.accepts_optionalString report.id⟩
        (.cons ⟨rfl, Json.accepts_uInt16 report.status⟩
          (.cons ⟨rfl, Json.accepts_optionalString report.result⟩
            (.cons ⟨rfl, accepts_any _⟩ .nil)))))
    (by decide)

theorem BulkReport.accepts (report : BulkReport) : Accepts (record fields) report.toJson := by
  have items : Accepts (list map) (.array (report.items.map Json.ofMap)) :=
    accepts_list (List.forall_mem_map.mpr fun item _ => Json.accepts_ofMap item)
  exact accepts_record
    (.cons ⟨rfl, Json.accepts_uInt64 report.took⟩
      (.cons ⟨rfl, accepts_bool report.errors⟩ (.cons ⟨rfl, items⟩ .nil)))
    (by decide)

theorem HitCount.accepts (count : HitCount) : Accepts (record fields) count.toJson :=
  accepts_record
    (.cons ⟨rfl, Json.accepts_uInt64 count.value⟩
      (.cons ⟨rfl, Json.accepts_optionalString count.relation⟩ .nil))
    (by decide)

theorem Hit.accepts (hit : Hit) : Accepts (record fields) hit.toJson :=
  accepts_record
    (.cons ⟨rfl, accepts_string hit.index⟩
      (.cons ⟨rfl, accepts_string hit.id⟩
        (.cons ⟨rfl, Json.accepts_optionalScore hit.score⟩
          (.cons ⟨rfl, Json.accepts_ofMap hit.source⟩ .nil))))
    (by decide)

theorem HitPage.accepts (page : HitPage) : Accepts (record fields) page.toJson := by
  have total := Json.accepts_ofOption HitCount.accepts (fun _ => nofun) page.total
  have hits : Accepts (list (record Hit.fields)) (.array (page.hits.map Hit.toJson)) :=
    accepts_list (List.forall_mem_map.mpr fun hit _ => hit.accepts)
  exact accepts_record
    (.cons ⟨rfl, total⟩
      (.cons ⟨rfl, Json.accepts_optionalScore page.maxScore⟩ (.cons ⟨rfl, hits⟩ .nil)))
    (by decide)

theorem SearchReport.accepts (report : SearchReport) : Accepts (record fields) report.toJson :=
  accepts_record
    (.cons ⟨rfl, Json.accepts_uInt64 report.took⟩
      (.cons ⟨rfl, accepts_bool report.timedOut⟩
        (.cons ⟨rfl, report.page.accepts⟩ .nil)))
    (by decide)

/-! ## What holds no double -/

theorem isReadBack_ofUInt64 (value : UInt64) : (Number.ofUInt64 value).IsReadBack :=
  Number.isReadBack_integer _

theorem Acknowledgement.isLegible_toJson (answer : Acknowledgement) (depth : Nat) :
    answer.toJson.IsLegible (depth + 1) := by
  obtain ⟨acknowledged, shards, index⟩ := answer
  cases shards <;> cases index <;> simp [toJson, Json.ofOption]

theorem WriteReport.isLegible_toJson (report : WriteReport) (depth : Nat) :
    report.toJson.IsLegible (depth + 1) := by
  obtain ⟨index, id, version, result⟩ := report
  cases version <;> simp [toJson, Json.ofOption, isReadBack_ofUInt64]

theorem HitCount.isLegible_toJson (count : HitCount) (depth : Nat) :
    count.toJson.IsLegible (depth + 1) := by
  obtain ⟨value, relation⟩ := count
  cases relation <;> simp [toJson, Json.ofOption, isReadBack_ofUInt64]

theorem HitCount.eq_of_reread {count : HitCount} {depth : Nat} {json : Json}
    (read : count.toJson.reread depth = .ok json) : json = count.toJson := by
  cases depth with
  | zero => cases read
  | succ depth =>
      have back := (Json.reread_eq_ok_iff _ _).mpr (count.isLegible_toJson depth)
      exact Except.ok.inj (read.symm.trans back)

namespace Hit

theorem id_of_reread {hit again : Hit} {depth : Nat} {json : Json}
    (read : hit.toJson.reread depth = .ok json) (decoded : ofJson? json = some again) :
    again.id = hit.id := by
  simp only [ofJson?, Option.bind_eq_bind, Option.bind_eq_some_iff] at decoded
  obtain ⟨row, taken, _, -, id, idRead, _, -, _, -, same⟩ := decoded
  cases same
  obtain ⟨found, reads, given⟩ := Row.given?_of_reread read taken rfl (by decide) "_id" rfl
  rw [Json.reread] at reads
  cases reads
  rw [Row.required?, given] at idRead
  exact (Option.some.inj idRead).symm

end Hit

namespace HitPage

theorem ids_of_rereadItems {hits again : List Hit} {depth : Nat} {items : List Json}
    (read : Json.rereadItems depth (hits.map Hit.toJson) = .ok items)
    (decoded : items.mapM Hit.ofJson? = some again) : again.map Hit.id = hits.map Hit.id := by
  induction hits generalizing items again with
  | nil =>
      cases read
      cases decoded
      rfl
  | cons hit hits ih =>
      rw [List.map_cons, Json.rereadItems_eq_ok_iff] at read
      cases read with
      | cons first rest =>
          simp only [List.mapM_cons, Option.bind_eq_bind, Option.bind_eq_some_iff] at decoded
          obtain ⟨one, oneRead, others, othersRead, same⟩ := decoded
          cases same
          rw [List.map_cons, List.map_cons, Hit.id_of_reread first oneRead,
            ih (Json.rereadItems_eq_ok_iff.mpr rest) othersRead]

/-- The number of all matches and the identifiers of the hits hold no double, so they are read back. -/
theorem total_and_ids_of_reread {page again : HitPage} {depth : Nat} {json : Json}
    (read : page.toJson.reread depth = .ok json) (decoded : ofJson? json = some again) :
    again.total = page.total ∧ again.hits.map Hit.id = page.hits.map Hit.id := by
  simp only [ofJson?, Option.bind_eq_bind, Option.bind_eq_some_iff] at decoded
  obtain ⟨row, taken, total, totalRead, _, -, hits, hitsRead, same⟩ := decoded
  cases same
  constructor
  · obtain ⟨found, reads, given⟩ := Row.given?_of_reread read taken rfl (by decide) "total" rfl
    have kept : found = Json.ofOption HitCount.toJson page.total := by
      cases held : page.total with
      | none =>
          rw [held, Json.ofOption, Json.reread] at reads
          exact (Except.ok.inj reads).symm
      | some count =>
          rw [held] at reads
          exact HitCount.eq_of_reread reads
    rw [kept] at given
    have back : row.optional? "total" HitCount.ofJson? = some page.total :=
      Row.optional?_of_written given fun count _ => ⟨Json.noConfusion, count.ofJson?_toJson⟩
    exact Option.some.inj (totalRead.symm.trans back)
  · obtain ⟨found, reads, given⟩ := Row.given?_of_reread read taken rfl (by decide) "hits" rfl
    rw [Row.defaulted?, given] at hitsRead
    obtain ⟨items, itemsRead, rfl⟩ := Json.exists_rereadItems reads
    exact ids_of_rereadItems itemsRead hitsRead

end HitPage

namespace SearchReport

/-- What an answer is decoded to after it was printed and read has the same number of matches and the
same identifiers. -/
theorem total_and_ids_of_reread {report again : SearchReport} {depth : Nat} {json : Json}
    (read : report.toJson.reread depth = .ok json) (decoded : ofJson? json = some again) :
    again.total = report.total ∧ again.ids = report.ids := by
  simp only [ofJson?, Option.bind_eq_bind, Option.bind_eq_some_iff] at decoded
  obtain ⟨row, taken, _, -, _, -, page, pageRead, same⟩ := decoded
  cases same
  obtain ⟨found, reads, given⟩ := Row.given?_of_reread read taken rfl (by decide) "hits" rfl
  rw [Row.defaulted?, given] at pageRead
  obtain ⟨count, ids⟩ := HitPage.total_and_ids_of_reread reads pageRead
  have size : page.hits.length = report.page.hits.length := by
    simpa using congrArg List.length ids
  exact ⟨by rw [total, total, count, size], ids⟩

end SearchReport

/-! ## Printing and reading -/

/-- The answer to a search with one hit, whose document has one number. -/
def SearchReport.ofNumber (value : Number) : SearchReport :=
  ⟨0, false, ⟨none, none, [⟨"t", "a", none, ⟨[("x", .number value)], List.nodup_singleton "x"⟩⟩]⟩⟩

/-- Nothing but the number can keep this answer from being read back. -/
theorem SearchReport.isLegible_ofNumber {value : Number} (back : value.IsReadBack) :
    (ofNumber value).toJson.IsLegible Json.depthLimit := by
  have zero : (Number.ofUInt64 0).IsReadBack := isReadBack_ofUInt64 0
  simp [ofNumber, toJson, HitPage.toJson, Hit.toJson, Json.ofOption, Json.ofMap, Json.depthLimit, back,
    zero]

theorem CommandLine.Output.isWrittenAs_stdout (json : Json) :
    json.IsWrittenAs (ofResult (.ok json)).stdout := json.isWrittenAs_line

theorem CommandLine.Output.symbols_stdout (json : Json) :
    Json.symbols (ofResult (.ok json)).stdout = json.indented 0 ++ ['\n'] := by
  have printed : (ofResult (.ok json)).stdout = String.ofList (json.indented 0 ++ ['\n']) :=
    (String.ofList_append ..).symm
  have plain : Json.IsPlain (json.indented 0 ++ ['\n']) := by
    rw [Json.isPlain_append, ← Json.Layout.write_spread]
    exact ⟨Json.Layout.isPlain_write _ 0 json, Json.Layout.isPlain_line .spread 0⟩
  rw [printed, Json.symbols_ofList plain]

/-- Every answer and every part of an answer has a normal form, in which it is written.  Whatever an
answer was read from, reading it again from its written form gives the same answer, with the same number
of matches, the same documents with their identifiers, and the same failures.

The written form is printed, by the program among others, and the text is read as the form itself exactly
when the form is nested at most as deep as a reader goes, no object in it repeats a key, and each number
in it is read back from its numeral, as integers always are; then the answer is the same as well.  This is
always so for an acknowledgement, a report of a write and a count of matches.  The number of matches and
the identifiers of the hits are the same whenever the text is read at all. -/
theorem answers_read_back :
    Json.Survives Acknowledgement.fields Acknowledgement.toJson Acknowledgement.ofJson? ∧
    Json.Survives WriteReport.fields WriteReport.toJson WriteReport.ofJson? ∧
    Json.Survives FetchReport.fields FetchReport.toJson FetchReport.ofJson? ∧
    Json.Survives ItemReport.fields ItemReport.toJson ItemReport.ofJson? ∧
    Json.Survives BulkReport.fields BulkReport.toJson BulkReport.ofJson? ∧
    Json.Survives HitCount.fields HitCount.toJson HitCount.ofJson? ∧
    Json.Survives Hit.fields Hit.toJson Hit.ofJson? ∧
    Json.Survives HitPage.fields HitPage.toJson HitPage.ofJson? ∧
    Json.Survives SearchReport.fields SearchReport.toJson SearchReport.ofJson? ∧
    (∀ value bounded, (Number.integer value bounded).IsReadBack) ∧
    (∀ answer : Acknowledgement, answer.toJson.IsLegible Json.depthLimit) ∧
    (∀ report : WriteReport, report.toJson.IsLegible Json.depthLimit) ∧
    (∀ count : HitCount, count.toJson.IsLegible Json.depthLimit) ∧
    (∀ json : Json, json.IsWrittenAs json.toText ∧ json.IsWrittenAs json.toIndentedText ∧
      json.IsWrittenAs (CommandLine.Output.ofResult (.ok json)).stdout) ∧
    (∀ json report, BulkReport.ofJson? json = some report →
      ∃ again, BulkReport.ofJson? report.toJson = some again ∧
        again.failedItems = report.failedItems ∧ again.itemReports = report.itemReports ∧
        ∀ text, report.toJson.IsWrittenAs text → report.toJson.IsLegible Json.depthLimit →
          decodeText (record BulkReport.fields) BulkReport.ofJson? text = .ok again) ∧
    ∀ json report, SearchReport.ofJson? json = some report →
      ∃ again, SearchReport.ofJson? report.toJson = some again ∧
        again.total = report.total ∧ again.ids = report.ids ∧ again.documents = report.documents ∧
        ∀ text, report.toJson.IsWrittenAs text →
          (report.toJson.IsLegible Json.depthLimit →
            decodeText (record SearchReport.fields) SearchReport.ofJson? text = .ok again) ∧
          ∀ printed, decodeText (record SearchReport.fields) SearchReport.ofJson? text = .ok printed →
            printed.total = report.total ∧ printed.ids = report.ids := by
  have bulk := BulkReport.normalises.survives BulkReport.accepts
  have search := SearchReport.normalises.survives SearchReport.accepts
  refine ⟨Acknowledgement.normalises.survives Acknowledgement.accepts,
    WriteReport.normalises.survives WriteReport.accepts,
    FetchReport.normalises.survives FetchReport.accepts,
    ItemReport.normalises.survives ItemReport.accepts, bulk,
    HitCount.normalises.survives HitCount.accepts, Hit.normalises.survives Hit.accepts,
    HitPage.normalises.survives HitPage.accepts, search,
    fun _ bounded => Number.isReadBack_integer bounded,
    fun answer => answer.isLegible_toJson 126, fun report => report.isLegible_toJson 126,
    fun count => count.isLegible_toJson 126,
    fun json => ⟨json.isWrittenAs_toText, json.isWrittenAs_toIndentedText,
      CommandLine.Output.isWrittenAs_stdout json⟩, ?_, ?_⟩
  · intro json report read
    exact ⟨report, report.ofJson?_toJson, rfl, rfl,
      fun text written => (bulk.legible json report text read written).2⟩
  · intro json report read
    refine ⟨report, report.ofJson?_toJson, rfl, rfl, rfl, fun text written =>
      ⟨(search.legible json report text read written).2, fun printed decoded => ?_⟩⟩
    obtain ⟨whole, byShape⟩ := search.rereads report text written
    rw [byShape, whole, bind_eq_ok] at decoded
    obtain ⟨found, reads, decoded⟩ := decoded
    refine SearchReport.total_and_ids_of_reread reads ?_
    cases known : SearchReport.ofJson? found with
    | none =>
        rw [known] at decoded
        cases decoded
    | some value =>
        rw [known] at decoded
        exact congrArg some (Except.ok.inj decoded)

/-- An answer with the document `1.2` is read back from what the program prints for it. -/
theorem answers_read_back_short :
    let report := SearchReport.ofNumber (.double ⟨0x3FF3333333333333⟩ (by decide))
    report.toJson.IsLegible Json.depthLimit ∧
    decodeText (record SearchReport.fields) SearchReport.ofJson?
      (CommandLine.Output.ofResult (.ok report.toJson)).stdout = .ok report := by
  intro report
  have legible : report.toJson.IsLegible Json.depthLimit :=
    SearchReport.isLegible_ofNumber (by decide +kernel)
  obtain ⟨-, -, -, -, -, -, -, -, search, -, -, -, -, written, -, -⟩ := answers_read_back
  have kept := search.legible report.toJson report _ report.ofJson?_toJson (written report.toJson).2.2
  exact ⟨legible, kept.2 legible⟩

/-- The document `9.200864349327219` is printed by these digits and read as `9.20086434932722`, a
neighbour of its double. -/
theorem SearchReport.not_reread_of_neighbour :
    let report := ofNumber (.double ⟨0x402266D7B12695E0⟩ (by decide))
    let again := ofNumber (.double ⟨0x402266D7B12695E1⟩ (by decide))
    ofJson? report.toJson = some report ∧
    (decodeText (record fields) ofJson?
      (CommandLine.Output.ofResult (.ok report.toJson)).stdout).toOption = some again ∧
    again.documents ≠ report.documents := by
  refine ⟨ofJson?_toJson _, ?_, ?_⟩
  · rw [decodeText, CommandLine.Output.symbols_stdout]
    decide +kernel
  · decide

end DocumentSearch
