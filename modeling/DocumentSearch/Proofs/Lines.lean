import DocumentSearch.Proofs.Payloads
import DocumentSearch.Proofs.Printing
import DocumentSearch.Text.Split
import Mathlib.Data.List.Flatten

/-!
# The lines of a batch

A batch is written with two lines for each document: what to do with it, and its fields.  Nothing
that a document holds can break a line, since a printed value has no line break of its own, so the
lines can be read off the text at its line breaks.  They are the items of the batch written as one
array.
-/

namespace DocumentSearch

/-- Parts without separators that are each ended by one can be read off their text. -/
theorem Text.split_flatMap_append {separator : Char} {parts : List (List Char)}
    (free : ∀ part ∈ parts, separator ∉ part) :
    split separator (parts.flatMap fun part => part ++ [separator]) = parts ++ [[]] := by
  induction parts with
  | nil => rfl
  | cons part rest ih =>
      have here : separator ∉ part := free part List.mem_cons_self
      have later := ih fun other member => free other (List.mem_cons_of_mem _ member)
      rw [List.flatMap_cons, List.append_assoc, List.singleton_append, split_append_cons here,
        later]
      rfl

namespace Json

theorem compactItems_eq (items : List Json) :
    compactItems items = items.flatMap fun item => ',' :: compact item := by
  induction items with
  | nil => rfl
  | cons item rest ih => rw [compactItems, ih, List.flatMap_cons]

theorem compact_array (items : List Json) :
    compact (.array items) = '[' :: [','].intercalate (items.map compact) ++ [']'] := by
  cases items with
  | nil => rfl
  | cons item rest =>
      have others : [','].intercalate (compact item :: rest.map compact) =
          compact item ++ compactItems rest := by
        rw [compactItems_eq]
        induction rest generalizing item with
        | nil => simp [List.intercalate]
        | cons next rest ih => simpa [List.intercalate] using ih next
      rw [compact, List.map_cons, others]
      rfl

end Json

namespace Batch

/-- The lines of a batch in compact form. -/
def compactLines (batch : Batch) : List (List Char) :=
  batch.lines.map fun line => line.toJson.compact

theorem toList_toLinesText (batch : Batch) :
    batch.toLinesText.toList = batch.compactLines.flatMap fun line => line ++ ['\n'] := by
  rw [toLinesText, String.toList_ofList, compactLines, List.flatMap_map]
  rfl

theorem newline_not_mem_of_mem_compactLines {batch : Batch} {line : List Char}
    (member : line ∈ batch.compactLines) : '\n' ∉ line := by
  obtain ⟨written, _, rfl⟩ := List.mem_map.mp member
  exact (Json.controlFree_compact written.toJson).newline_not_mem

theorem ne_nil_of_mem_compactLines {batch : Batch} {line : List Char}
    (member : line ∈ batch.compactLines) : line ≠ [] := by
  obtain ⟨written, _, rfl⟩ := List.mem_map.mp member
  cases written with
  | action table id => simp [Line.toJson, Json.compact]
  | source body =>
      cases entries : body.entries with
      | nil => simp [Line.toJson, Json.ofMap, Json.compact, entries]
      | cons entry rest => simp [Line.toJson, Json.ofMap, Json.compact, entries]

theorem length_compactLines (batch : Batch) :
    batch.compactLines.length = 2 * batch.records.length := by
  simp [compactLines, lines, List.length_flatMap, Nat.mul_comm]

theorem getElem?_compactLines {batch : Batch} {position : Nat} {record : Record}
    (found : batch.records[position]? = some record) :
    batch.compactLines[2 * position]? = some (Line.action batch.table record.id).toJson.compact ∧
      batch.compactLines[2 * position + 1]? = some (Line.source record.body).toJson.compact := by
  obtain ⟨table, records⟩ := batch
  simp only [compactLines, lines] at found ⊢
  induction records generalizing position with
  | nil => simp at found
  | cons first rest ih =>
      cases position with
      | zero =>
          cases found
          exact ⟨rfl, rfl⟩
      | succ position => exact ih found

/-- The items of a batch that is written as one array are its lines. -/
theorem compact_toJson (batch : Batch) :
    batch.toJson.compact = '[' :: [','].intercalate batch.compactLines ++ [']'] := by
  rw [toJson, Json.compact_array, List.map_map]
  rfl

/-- The text of an accepted batch of any documents ends with a line break and consists of two lines
for each document: the action, which tells the identifier exactly when the document gives one, and
the other fields of the document.  These lines in order are the items of the batch as one array. -/
theorem toLinesText_framed {table : String} {documents : List Document} {batch : Batch}
    (accepted : Batch.new table documents = .ok batch) :
    ∃ lines : List (List Char),
      batch.toLinesText.toList.getLast? = some '\n' ∧
      Text.split '\n' batch.toLinesText.toList = lines ++ [[]] ∧
      lines.length = 2 * documents.length ∧
      (∀ line ∈ lines, line ≠ []) ∧
      (∀ (position : Nat) (document : Document), documents[position]? = some document →
        (∃ id, document.id? = .ok id) ∧
        (document.id? = .ok none → lines[2 * position]? = some (Json.compact
          (.object [("index", .object [("_index", .string table)])]))) ∧
        (∀ id, document.id? = .ok (some id) → lines[2 * position]? = some (Json.compact
          (.object [("index", .object [("_index", .string table), ("_id", .string id)])]))) ∧
        lines[2 * position + 1]? =
          some (Json.compact (Json.ofMap (document.erase Document.idField)))) ∧
      (∃ items, batch.toJson = .array items ∧ lines = items.map Json.compact) ∧
      batch.toJson.compact = '[' :: [','].intercalate lines ++ [']'] := by
  obtain ⟨_, several, rfl, stored⟩ := new_eq_ok_iff.mp accepted
  refine ⟨batch.compactLines, ?_, ?_, ?_, fun line => ne_nil_of_mem_compactLines, ?_, ?_,
    batch.compact_toJson⟩
  · have filled : batch.compactLines ≠ [] := by
      apply List.ne_nil_of_length_pos
      rw [length_compactLines, ← stored.length_eq]
      have := List.length_pos_iff.mpr several
      omega
    obtain ⟨front, last, ends⟩ := List.eq_nil_or_concat batch.compactLines |>.resolve_left filled
    rw [toList_toLinesText, ends]
    simp
  · rw [toList_toLinesText]
    exact Text.split_flatMap_append fun line => newline_not_mem_of_mem_compactLines
  · rw [length_compactLines, stored.length_eq]
  · intro position document given
    obtain ⟨within, rfl⟩ := List.getElem?_eq_some_iff.mp given
    have within' : position < batch.records.length := stored.length_eq ▸ within
    have record : documents[position].IsStoredAs batch.records[position] :=
      stored.get within within'
    obtain ⟨action, source⟩ := getElem?_compactLines (List.getElem?_eq_getElem within')
    obtain ⟨id, body, _⟩ := record
    refine ⟨⟨_, id⟩, ?_, ?_, ?_⟩
    · intro absent
      rw [action, Except.ok.inj (id.symm.trans absent)]
      rfl
    · intro name named
      rw [action, Except.ok.inj (id.symm.trans named)]
      rfl
    · rw [source, body]
      rfl
  · exact ⟨_, rfl, by rw [compactLines, List.map_map]; rfl⟩

/-- Two documents with line breaks in an identifier, a key and a nested value; the second one has no
identifier. -/
def brokenDocuments : List Document :=
  [.ofList [("id", .string "1\n2"), ("a\r\nb", .array [.object [("\n", .string "\"\\\n")]])],
    .ofList [("n", .bool true), ("id", .null)]]

theorem toLinesText_framed_broken :
    ∃ batch lines, Batch.new "t\n" brokenDocuments = .ok batch ∧
      Text.split '\n' batch.toLinesText.toList = lines ++ [[]] ∧ lines.length = 4 ∧
      lines[0]? =
        some "\x7b\"index\":\x7b\"_index\":\"t\\n\",\"_id\":\"1\\n2\"\x7d\x7d".toList ∧
      lines[1]? = some "\x7b\"a\\r\\nb\":[\x7b\"\\n\":\"\\\"\\\\\\n\"\x7d]\x7d".toList ∧
      lines[2]? = some "\x7b\"index\":\x7b\"_index\":\"t\\n\"\x7d\x7d".toList ∧
      lines[3]? = some "\x7b\"n\":true\x7d".toList := by
  obtain ⟨batch, accepted⟩ : ∃ batch, Batch.new "t\n" brokenDocuments = .ok batch := ⟨_, rfl⟩
  obtain ⟨lines, _, split, length, _, written, _⟩ := toLinesText_framed accepted
  obtain ⟨_, _, action, source⟩ := written 0 _ rfl
  obtain ⟨_, unnamed, _, lastSource⟩ := written 1 _ rfl
  exact ⟨batch, lines, accepted, split, length, (action _ rfl).trans (by decide),
    source.trans (by decide), (unnamed rfl).trans (by decide), lastSource.trans (by decide)⟩

end Batch

end DocumentSearch
