import DocumentSearch.Proofs.Rows
import DocumentSearch.Response.Bulk
import DocumentSearch.Response.Hits
import Mathlib.Data.List.Basic

/-!
# Answers are read back

An answer may be given in many ways: with unknown keys, as an array, without its optional fields.  It
is written in one way only, with every field once and in order, and what is written for an answer that
was read is read as the same answer.
-/

namespace DocumentSearch

open Json (Field Row)

namespace Json

/-- Whether the written form of a record is its normal form: what is given under other keys does not
matter, every field is written once and in order, and from there on reading and writing change
nothing. -/
structure Normalises {α : Type} (fields : List Field) (encode : α → Json)
    (decode? : Json → Option α) : Prop where
  ignores : ∀ entries, decode? (.object entries) =
    decode? (.object (entries.filter fun entry => Row.isKnown fields entry.1))
  writes : ∀ value, ∃ entries, encode value = .object entries ∧
    Entries.keys entries = fields.map Field.key
  settles : ∀ json value, decode? json = some value →
    decode? (encode value) = some value ∧
      (decode? (encode value)).map encode = some (encode value)

theorem asMap?_ofMap (map : OrderedMap Json) : asMap? (ofMap map) = some map :=
  congrArg some map.ofList_entries

theorem mapM_map_of_back {α : Type} {encode : α → Json} {decode : Json → Option α}
    (back : ∀ value, decode (encode value) = some value) (values : List α) :
    (values.map encode).mapM decode = some values := by
  induction values with
  | nil => rfl
  | cons value rest ih =>
      rw [List.map_cons, List.mapM_cons, back, ih]
      rfl

/-- A record that is read from its fields and read back whenever it can be read has a normal form. -/
theorem normalises_of_row {α : Type} {fields : List Field} {encode : α → Json}
    {decode? : Json → Option α} {ofRow : Row → Option α}
    (reads : ∀ json, decode? json = (Row.ofJson? fields json).bind ofRow)
    (writes : ∀ value, ∃ entries, encode value = .object entries ∧
      Entries.keys entries = fields.map Field.key)
    (back : ∀ json value, decode? json = some value → decode? (encode value) = some value) :
    Normalises fields encode decode? where
  ignores entries := by
    rw [reads, reads, Row.ofJson?, Row.ofJson?, Row.ofEntries?_filter]
  writes := writes
  settles json value read := by
    have again := back json value read
    exact ⟨again, by rw [again]; rfl⟩

end Json

namespace Acknowledgement

theorem ofJson?_toJson (answer : Acknowledgement) : ofJson? answer.toJson = some answer := by
  simp only [ofJson?, Option.bind_eq_bind, Option.bind_eq_some_iff]
  exact ⟨_, Row.ofJson?_object_of_keys rfl (by decide), _, rfl,
    _, Row.optional?_of_written rfl fun value _ => ⟨nofun, Json.inverts_asBool?.back value⟩,
    _, Row.optional?_of_written rfl fun value _ => ⟨nofun, Json.inverts_asString?.back value⟩, rfl⟩

theorem normalises : Json.Normalises fields toJson ofJson? :=
  Json.normalises_of_row (fun _ => rfl) (fun _ => ⟨_, rfl, rfl⟩) fun _ value _ =>
    ofJson?_toJson value

end Acknowledgement

namespace WriteReport

theorem ofJson?_toJson (report : WriteReport) : ofJson? report.toJson = some report := by
  simp only [ofJson?, Option.bind_eq_bind, Option.bind_eq_some_iff]
  exact ⟨_, Row.ofJson?_object_of_keys rfl (by decide), _, rfl, _, rfl,
    _, Row.optional?_of_written rfl fun value _ => ⟨nofun, Json.inverts_asUInt64?.back value⟩,
    _, rfl, rfl⟩

theorem normalises : Json.Normalises fields toJson ofJson? :=
  Json.normalises_of_row (fun _ => rfl) (fun _ => ⟨_, rfl, rfl⟩) fun _ value _ =>
    ofJson?_toJson value

end WriteReport

namespace FetchReport

theorem ofJson?_toJson (report : FetchReport) : ofJson? report.toJson = some report := by
  simp only [ofJson?, Option.bind_eq_bind, Option.bind_eq_some_iff]
  exact ⟨_, Row.ofJson?_object_of_keys rfl (by decide), _, rfl, _, rfl,
    _, Row.optional?_of_written rfl fun value _ => ⟨nofun, Json.inverts_asUInt64?.back value⟩,
    _, rfl,
    _, Row.optional?_of_written rfl fun value _ => ⟨nofun, Json.asMap?_ofMap value⟩, rfl⟩

theorem normalises : Json.Normalises fields toJson ofJson? :=
  Json.normalises_of_row (fun _ => rfl) (fun _ => ⟨_, rfl, rfl⟩) fun _ value _ =>
    ofJson?_toJson value

end FetchReport

namespace ItemReport

theorem error_ne_null_of_ofJson? {json : Json} {report : ItemReport}
    (read : ofJson? json = some report) : report.error ≠ some .null := by
  simp only [ofJson?, Option.bind_eq_bind, Option.bind_eq_some_iff] at read
  obtain ⟨row, -, _, -, _, -, _, -, _, -, error, errorRead, same⟩ := read
  cases same
  rintro rfl
  obtain ⟨_, _, notNull, same⟩ := Row.optional?_eq_some_some_iff.mp errorRead
  exact notNull (Option.some.inj same)

theorem ofJson?_toJson {report : ItemReport} (sound : report.error ≠ some .null) :
    ofJson? report.toJson = some report := by
  simp only [ofJson?, Option.bind_eq_bind, Option.bind_eq_some_iff]
  exact ⟨_, Row.ofJson?_object_of_keys rfl (by decide),
    _, Row.optional?_of_written rfl fun value _ => ⟨nofun, Json.inverts_asString?.back value⟩,
    _, Row.optional?_of_written rfl fun value _ => ⟨nofun, Json.inverts_asString?.back value⟩,
    _, Row.required?_eq_some_iff.mpr ⟨_, rfl, Json.inverts_asUInt16?.back report.status⟩,
    _, Row.optional?_of_written rfl fun value _ => ⟨nofun, Json.inverts_asString?.back value⟩,
    _, Row.optional?_of_written rfl fun value held =>
      ⟨fun null => sound (held.trans (congrArg some null)), rfl⟩, rfl⟩

theorem normalises : Json.Normalises fields toJson ofJson? :=
  Json.normalises_of_row (fun _ => rfl) (fun _ => ⟨_, rfl, rfl⟩) fun _ _ read =>
    ofJson?_toJson (error_ne_null_of_ofJson? read)

end ItemReport

namespace BulkReport

theorem itemsOfJson?_back (items : List (OrderedMap Json)) :
    itemsOfJson? (.array (items.map Json.ofMap)) = some items :=
  Json.mapM_map_of_back Json.asMap?_ofMap items

theorem ofJson?_toJson (report : BulkReport) : ofJson? report.toJson = some report := by
  simp only [ofJson?, Option.bind_eq_bind, Option.bind_eq_some_iff]
  exact ⟨_, Row.ofJson?_object_of_keys rfl (by decide),
    _, Json.inverts_asUInt64?.back report.took, _, rfl, _, itemsOfJson?_back report.items, rfl⟩

theorem normalises : Json.Normalises fields toJson ofJson? :=
  Json.normalises_of_row (fun _ => rfl) (fun _ => ⟨_, rfl, rfl⟩) fun _ value _ =>
    ofJson?_toJson value

end BulkReport

theorem Score.ofJson?_toJson (score : Score) : ofJson? score.toJson = some score :=
  dif_pos score.finite

namespace HitCount

theorem ofJson?_toJson (count : HitCount) : ofJson? count.toJson = some count := by
  simp only [ofJson?, Option.bind_eq_bind, Option.bind_eq_some_iff]
  exact ⟨_, Row.ofJson?_object_of_keys rfl (by decide),
    _, Row.required?_eq_some_iff.mpr ⟨_, rfl, Json.inverts_asUInt64?.back count.value⟩,
    _, Row.optional?_of_written rfl fun value _ => ⟨nofun, Json.inverts_asString?.back value⟩, rfl⟩

theorem normalises : Json.Normalises fields toJson ofJson? :=
  Json.normalises_of_row (fun _ => rfl) (fun _ => ⟨_, rfl, rfl⟩) fun _ value _ =>
    ofJson?_toJson value

end HitCount

namespace Hit

theorem ofJson?_toJson (hit : Hit) : ofJson? hit.toJson = some hit := by
  simp only [ofJson?, Option.bind_eq_bind, Option.bind_eq_some_iff]
  exact ⟨_, Row.ofJson?_object_of_keys rfl (by decide), _, rfl, _, rfl,
    _, Row.optional?_of_written rfl fun value _ => ⟨nofun, value.ofJson?_toJson⟩,
    _, Json.asMap?_ofMap hit.source, rfl⟩

theorem normalises : Json.Normalises fields toJson ofJson? :=
  Json.normalises_of_row (fun _ => rfl) (fun _ => ⟨_, rfl, rfl⟩) fun _ value _ =>
    ofJson?_toJson value

end Hit

namespace HitPage

theorem hitsOfJson?_back (hits : List Hit) :
    hitsOfJson? (.array (hits.map Hit.toJson)) = some hits :=
  Json.mapM_map_of_back Hit.ofJson?_toJson hits

theorem ofJson?_toJson (page : HitPage) : ofJson? page.toJson = some page := by
  simp only [ofJson?, Option.bind_eq_bind, Option.bind_eq_some_iff]
  exact ⟨_, Row.ofJson?_object_of_keys rfl (by decide),
    _, Row.optional?_of_written rfl fun value _ => ⟨nofun, value.ofJson?_toJson⟩,
    _, Row.optional?_of_written rfl fun value _ => ⟨nofun, value.ofJson?_toJson⟩,
    _, hitsOfJson?_back page.hits, rfl⟩

theorem normalises : Json.Normalises fields toJson ofJson? :=
  Json.normalises_of_row (fun _ => rfl) (fun _ => ⟨_, rfl, rfl⟩) fun _ value _ =>
    ofJson?_toJson value

end HitPage

namespace SearchReport

theorem ofJson?_toJson (report : SearchReport) : ofJson? report.toJson = some report := by
  simp only [ofJson?, Option.bind_eq_bind, Option.bind_eq_some_iff]
  exact ⟨_, Row.ofJson?_object_of_keys rfl (by decide),
    _, Json.inverts_asUInt64?.back report.took, _, rfl, _, report.page.ofJson?_toJson, rfl⟩

theorem normalises : Json.Normalises fields toJson ofJson? :=
  Json.normalises_of_row (fun _ => rfl) (fun _ => ⟨_, rfl, rfl⟩) fun _ value _ =>
    ofJson?_toJson value

end SearchReport

end DocumentSearch
