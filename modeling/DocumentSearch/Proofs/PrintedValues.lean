import DocumentSearch.Proofs.Layouts
import DocumentSearch.Proofs.Rereading

/-!
# Printed values are read whatever their layout

The items of an array and the entries of an object are read one after the other, whatever reads each of
them, and a value is read from every layout with the same outcome.
-/

namespace DocumentSearch

namespace Json

/-! ## Items -/

/-- Whether a text can be an item: it starts neither with a blank nor with a closing bracket. -/
def Begins (text : List Char) : Prop :=
  ∃ first others, text = first :: others ∧ isBlank first = false ∧ first ≠ ']'

theorem begins_numberChars (value : Number) : Begins (numberChars value) := by
  obtain ⟨first, others, parted, sign | digit⟩ := (isNumeral_numberChars value).exists_cons
  · exact ⟨first, others, parted, by rw [sign]; rfl, by rw [sign]; decide⟩
  · refine ⟨first, others, parted, ?_, ?_⟩
    · by_contra blank
      cases digit.symm.trans (ends_of_isBlank (Bool.not_eq_false _ ▸ blank) []).1
    · rintro rfl
      cases digit

theorem Layout.begins_write (layout : Layout) (level : Nat) (json : Json) :
    Begins (layout.write level json) := by
  cases json with
  | null => exact ⟨'n', _, layout.write_null level, rfl, by decide⟩
  | bool value =>
      rw [layout.write_bool]
      cases value with
      | false => exact ⟨'f', _, rfl, rfl, by decide⟩
      | true => exact ⟨'t', _, rfl, rfl, by decide⟩
  | number value =>
      rw [layout.write_number]
      exact begins_numberChars value
  | string value => exact ⟨'"', _, layout.write_string level value, rfl, by decide⟩
  | array items => exact ⟨'[', _, write_array items, rfl, by decide⟩
  | object entries => exact ⟨'{', _, write_object entries, rfl, by decide⟩

section

variable {σ : Type} {step : σ → Reader σ} {bound : Nat} {first : Bool} {state : σ}
  {blanks text : List Char}

theorem foldItems_close (blank : IsBlankText blanks) (rest : List Char) :
    foldItems step (bound + 1) first state (blanks ++ ']' :: rest) = .ok (state, rest) := by
  rw [foldItems, skipBlanks_append_cons blank rfl]
  rfl

theorem foldItems_first (blank : IsBlankText blanks) (begins : Begins text) (rest : List Char) :
    foldItems step (bound + 1) true state (blanks ++ (text ++ rest)) =
      step state (text ++ rest) >>= fun taken => foldItems step bound false taken.1 taken.2 := by
  obtain ⟨c, others, rfl, visible, notClosed⟩ := begins
  rw [foldItems, List.cons_append, skipBlanks_append_cons blank visible]
  exact (if_neg notClosed).trans (if_pos rfl)

theorem foldItems_next (blank : IsBlankText blanks) (begins : Begins text) (rest : List Char) :
    foldItems step (bound + 1) false state (',' :: (blanks ++ (text ++ rest))) =
      step state (text ++ rest) >>= fun taken => foldItems step bound false taken.1 taken.2 := by
  obtain ⟨c, others, rfl, visible, notClosed⟩ := begins
  have comma : isBlank ',' = false := rfl
  rw [foldItems, skipBlanks_cons comma]
  simp only [Char.reduceEq, if_false, if_true, Bool.false_eq_true]
  rw [List.cons_append, skipBlanks_append_cons blank visible]
  split
  · rename_i empty
    cases empty
  · rename_i closed
    exact absurd (List.cons.inj closed).1 notClosed
  · rfl

end

/-- Reads an item and puts it in front of those that were read before. -/
def collect (read : Reader Json) (items : List Json) : Reader (List Json) := fun text => do
  let (item, rest) ← read text
  return (item :: items, rest)

theorem collect_of_takes {read : Reader Json} {text rest : List Char} {outcome : Except Fault Json}
    (taken : Takes read text outcome) (ends : Ends rest) (items : List Json) :
    collect read items (text ++ rest) = outcome.map fun item => (item :: items, rest) := by
  rw [collect, taken.apply ends]
  cases outcome <;> rfl

namespace Layout

variable {layout : Layout} {level depth : Nat} {read : Reader Json} {blanks : List Char}

theorem ends_writeItems (items : List Json) {text : List Char} (ends : Ends text) :
    Ends (layout.writeItems level items ++ text) := by
  cases items with
  | nil => exact ends
  | cons item rest => exact ends_mark (.inl rfl) _

/-- The items after the first are read one after the other, up to the closing bracket or to the first
that is refused. -/
theorem foldItems_writeItems {items : List Json}
    (each : ∀ item ∈ items, Takes read (layout.write level item) (reread depth item))
    (blank : IsBlankText blanks) {bound : Nat} (enough : items.length < bound)
    (done : List Json) (rest : List Char) :
    foldItems (collect read) bound false done
        (layout.writeItems level items ++ (blanks ++ ']' :: rest)) =
      (rereadItems depth items).map fun found => (found.reverse ++ done, rest) := by
  have close : Ends (blanks ++ ']' :: rest) := ends_append blank (ends_mark (.inr (.inl rfl)) rest)
  induction items generalizing bound done with
  | nil =>
      cases bound with
      | zero => cases enough
      | succ bound => exact foldItems_close blank rest
  | cons item items ih =>
      cases bound with
      | zero => cases enough
      | succ bound =>
          have taken := each item List.mem_cons_self
          have later := ih (fun item member => each item (List.mem_cons_of_mem _ member))
            (Nat.lt_of_succ_lt_succ enough)
          have ends : Ends (layout.writeItems level items ++ (blanks ++ ']' :: rest)) :=
            ends_writeItems items close
          simp only [writeItems, List.cons_append, List.append_assoc]
          rw [foldItems_next (layout.line_blank level) (layout.begins_write level item),
            collect_of_takes taken ends, rereadItems]
          cases reread depth item with
          | error fault => rfl
          | ok found =>
              refine (later (found :: done)).trans ?_
              cases rereadItems depth items with
              | error fault => rfl
              | ok others => simp [Except.map, bind, Except.bind, pure, Except.pure]

theorem length_le_writeItems (items : List Json) :
    items.length ≤ (layout.writeItems level items).length := by
  induction items with
  | nil => exact Nat.le_refl 0
  | cons item items ih =>
      simp only [writeItems, List.length_append, List.length_cons]
      omega

/-- The items behind an opening bracket are read up to the closing one. -/
theorem foldItems_itemsPart {items : List Json}
    (each : ∀ item ∈ items, Takes read (layout.write (level + 1) item) (reread depth item))
    (rest : List Char) :
    foldItems (collect read) ((layout.itemsPart level items ++ rest).length + 1) true []
        (layout.itemsPart level items ++ rest) =
      (rereadItems depth items).map fun found => (found.reverse, rest) := by
  cases items with
  | nil => exact foldItems_close isBlankText_nil rest
  | cons item items =>
      have blank := layout.line_blank level
      have ends : Ends (layout.writeItems (level + 1) items ++ (layout.line level ++ ']' :: rest)) :=
        ends_writeItems items (ends_append blank (ends_mark (.inr (.inl rfl)) rest))
      have enough : items.length < (layout.itemsPart level (item :: items) ++ rest).length := by
        have filled : items.length ≤ (layout.writeItems (level + 1) items).length :=
          length_le_writeItems items
        simp only [itemsPart, List.length_append, List.length_cons]
        omega
      have taken := each item List.mem_cons_self
      have later (found : Json) := foldItems_writeItems
        (fun other member => each other (List.mem_cons_of_mem _ member)) blank enough [found] rest
      generalize (layout.itemsPart level (item :: items) ++ rest).length = bound at enough later ⊢
      simp only [itemsPart, List.append_assoc, List.singleton_append]
      rw [foldItems_first (layout.line_blank (level + 1)) (layout.begins_write (level + 1) item),
        collect_of_takes taken ends, rereadItems]
      cases reread depth item with
      | error fault => rfl
      | ok found =>
          refine (later found).trans ?_
          cases rereadItems depth items with
          | error fault => rfl
          | ok others => simp [Except.map, bind, Except.bind, pure, Except.pure]

end Layout

/-! ## Entries -/

section

variable {σ : Type} {step : σ → String → Reader σ} {bound : Nat} {first : Bool} {state : σ}
  {blanks : List Char}

theorem foldEntries_close (blank : IsBlankText blanks) (rest : List Char) :
    foldEntries stringBody step (bound + 1) first state (blanks ++ '}' :: rest) =
      .ok (state, rest) := by
  rw [foldEntries, skipBlanks_append_cons blank rfl]
  rfl

theorem quote_append (name : String) (rest : List Char) :
    quote name.toList ++ rest = '"' :: (name.toList.flatMap escapeChar ++ '"' :: rest) := by
  rw [quote, List.cons_append, List.cons_append, List.append_assoc, List.singleton_append]

theorem foldEntries_first (blank : IsBlankText blanks) (name : String) (rest : List Char) :
    foldEntries stringBody step (bound + 1) true state (blanks ++ (quote name.toList ++ rest)) =
      step state name rest >>= fun taken =>
        foldEntries stringBody step bound false taken.1 taken.2 := by
  have key := stringBody_flatMap name.toList rest
  rw [String.ofList_toList] at key
  rw [foldEntries, quote_append, skipBlanks_append_cons blank rfl]
  change (stringBody _ >>= fun named => step state named.1 named.2 >>= fun taken =>
    foldEntries stringBody step bound false taken.1 taken.2) = _
  rw [key]
  rfl

theorem foldEntries_next (blank : IsBlankText blanks) (name : String) (rest : List Char) :
    foldEntries stringBody step (bound + 1) false state
        (',' :: (blanks ++ (quote name.toList ++ rest))) =
      step state name rest >>= fun taken =>
        foldEntries stringBody step bound false taken.1 taken.2 := by
  have key := stringBody_flatMap name.toList rest
  rw [String.ofList_toList] at key
  have comma : isBlank ',' = false := rfl
  have skipped := skipBlanks_append_cons blank (rfl : isBlank '"' = false)
    (name.toList.flatMap escapeChar ++ '"' :: rest)
  rw [foldEntries, quote_append, skipBlanks_cons comma]
  split
  · rename_i empty
    cases empty
  · rename_i closed
    exact absurd (List.cons.inj closed).1 (by decide)
  · rename_i same
    cases same
    simp only [Bool.false_eq_true, if_false, if_true, skipped]
    change (stringBody _ >>= fun named => step state named.1 named.2 >>= fun taken =>
      foldEntries stringBody step bound false taken.1 taken.2) = _
    rw [key]
    rfl

end

namespace Layout

variable {layout : Layout} {level depth : Nat} {blanks : List Char}

theorem ends_writeEntries (entries : List (String × Json)) {text : List Char} (ends : Ends text) :
    Ends (layout.writeEntries level entries ++ text) := by
  cases entries with
  | nil => exact ends
  | cons entry rest => exact ends_mark (.inl rfl) _

/-- Whether a step reads the entries one after the other behind their keys, and inserts each of them
into what was read before. -/
def InsertsEntries (layout : Layout) (level depth : Nat)
    (step : List (String × Json) → String → Reader (List (String × Json))) :
    OrderedMap Json → List (String × Json) → Prop
  | _, [] => True
  | before, (key, value) :: after =>
      (∀ rest, Ends rest → step before.entries key (layout.valuePart level value ++ rest) =
        (reread depth value).map fun found => ((before.insert key found).entries, rest)) ∧
      ∀ found, InsertsEntries layout level depth step (before.insert key found) after

theorem foldEntries_writeEntries
    {step : List (String × Json) → String → Reader (List (String × Json))}
    {before : OrderedMap Json} {entries : List (String × Json)}
    (inserts : InsertsEntries layout level depth step before entries)
    (blank : IsBlankText blanks) {bound : Nat} (enough : entries.length < bound) (rest : List Char) :
    foldEntries stringBody step bound false before.entries
        (layout.writeEntries level entries ++ (blanks ++ '}' :: rest)) =
      (rereadEntries depth entries).map fun found => ((before.insertAll found).entries, rest) := by
  have close : Ends (blanks ++ '}' :: rest) := ends_append blank (ends_mark (.inr (.inr rfl)) rest)
  induction entries generalizing bound before with
  | nil =>
      cases bound with
      | zero => cases enough
      | succ bound => exact foldEntries_close blank rest
  | cons entry entries ih =>
      cases bound with
      | zero => cases enough
      | succ bound =>
          obtain ⟨key, value⟩ := entry
          have ends : Ends (layout.writeEntries level entries ++ (blanks ++ '}' :: rest)) :=
            ends_writeEntries entries close
          have step := inserts.1 _ ends
          simp only [valuePart, List.cons_append, List.append_assoc] at step
          simp only [writeEntries, List.cons_append, List.append_assoc]
          rw [foldEntries_next (layout.line_blank level), step, rereadEntries]
          cases reread depth value with
          | error fault => rfl
          | ok found =>
              refine (ih (inserts.2 found) (Nat.lt_of_succ_lt_succ enough)).trans ?_
              cases rereadEntries depth entries with
              | error fault => rfl
              | ok others => rfl

theorem length_le_writeEntries (entries : List (String × Json)) :
    entries.length ≤ (layout.writeEntries level entries).length := by
  induction entries with
  | nil => exact Nat.le_refl 0
  | cons entry entries ih =>
      simp only [writeEntries, List.length_append, List.length_cons]
      omega

/-- The entries behind an opening brace are read up to the closing one. -/
theorem foldEntries_entriesPart
    {step : List (String × Json) → String → Reader (List (String × Json))}
    {entries : List (String × Json)}
    (inserts : InsertsEntries layout (level + 1) depth step .empty entries) (rest : List Char) :
    foldEntries stringBody step ((layout.entriesPart level entries ++ rest).length + 1) true []
        (layout.entriesPart level entries ++ rest) =
      (rereadEntries depth entries).map fun found => (Entries.lastWrites found, rest) := by
  cases entries with
  | nil => exact foldEntries_close isBlankText_nil rest
  | cons entry entries =>
      obtain ⟨key, value⟩ := entry
      have blank := layout.line_blank level
      have ends : Ends (layout.writeEntries (level + 1) entries ++ (layout.line level ++ '}' :: rest)) :=
        ends_writeEntries entries (ends_append blank (ends_mark (.inr (.inr rfl)) rest))
      have enough : entries.length <
          (layout.entriesPart level ((key, value) :: entries) ++ rest).length := by
        have filled : entries.length ≤ (layout.writeEntries (level + 1) entries).length :=
          length_le_writeEntries entries
        simp only [entriesPart, List.length_append, List.length_cons]
        omega
      have first : step [] key _ = _ := inserts.1 _ ends
      have later (found : Json) := foldEntries_writeEntries (inserts.2 found) blank enough rest
      generalize (layout.entriesPart level ((key, value) :: entries) ++ rest).length = bound
        at enough later ⊢
      simp only [entriesPart, List.append_assoc, List.singleton_append]
      rw [foldEntries_first (layout.line_blank (level + 1)), first, rereadEntries]
      cases reread depth value with
      | error fault => rfl
      | ok found =>
          refine (later found).trans ?_
          cases rereadEntries depth entries with
          | error fault => rfl
          | ok others =>
              have written := OrderedMap.entries_ofList ((key, found) :: others)
              exact congrArg (fun entries => Except.ok (entries, rest)) written

end Layout

/-! ## Values -/

section

variable {layout : Layout} {level depth : Nat}

theorem valueWith_array {blanks : List Char} (blank : IsBlankText blanks) (read : Reader Json)
    (text : List Char) :
    valueWith (some read) (blanks ++ '[' :: text) =
      foldItems (collect read) (text.length + 1) true [] text >>= fun taken =>
        .ok (.array taken.1.reverse, taken.2) := by
  rw [valueWith_append blank]
  rfl

/-- Reads the value of an entry and puts it into its place among those that were read before. -/
def keep (read : Reader Json) (entries : List (String × Json)) (key : String) :
    Reader (List (String × Json)) := fun text => do
  let (value, rest) ← read (← colon text)
  return (Entries.put key value entries, rest)

theorem valueWith_object {blanks : List Char} (blank : IsBlankText blanks) (read : Reader Json)
    (text : List Char) :
    valueWith (some read) (blanks ++ '{' :: text) =
      foldEntries stringBody (keep read) (text.length + 1) true [] text >>= fun taken =>
        .ok (.object taken.1, taken.2) := by
  rw [valueWith_append blank]
  rfl

theorem colon_valuePart (layout : Layout) (level : Nat) (value : Json) (rest : List Char) :
    colon (layout.valuePart level value ++ rest) =
      .ok (layout.gap ++ (layout.write level value ++ rest)) := by
  have visible : isBlank ':' = false := rfl
  rw [Layout.valuePart, List.cons_append, List.append_assoc, colon, skipBlanks_cons visible]
  rfl

theorem insertsEntries_keep {entries : List (String × Json)}
    (each : ∀ entry ∈ entries,
      Takes (value depth) (layout.write level entry.2) (reread depth entry.2))
    (before : OrderedMap Json) :
    layout.InsertsEntries level depth (keep (value depth)) before entries := by
  induction entries generalizing before with
  | nil => trivial
  | cons entry entries ih =>
      obtain ⟨key, json⟩ := entry
      refine ⟨fun rest ends => ?_, fun found => ih (fun entry member =>
        each entry (List.mem_cons_of_mem _ member)) _⟩
      have taken := each (key, json) List.mem_cons_self layout.gap rest layout.gap_blank ends
      rw [keep, colon_valuePart]
      simp only [bind, Except.bind, taken]
      cases reread depth json <;> rfl

theorem exists_value_eq (depth : Nat) : ∃ inner, value depth = valueWith inner := by
  cases depth with
  | zero => exact ⟨none, rfl⟩
  | succ depth => exact ⟨some (value depth), rfl⟩

mutual

/-- A value is read from every layout, with the same outcome. -/
theorem takes_value (layout : Layout) : ∀ (json : Json) (depth level : Nat),
    Takes (value depth) (layout.write level json) (reread depth json)
  | .null, depth, level => by
      obtain ⟨inner, same⟩ := exists_value_eq depth
      rw [same, layout.write_null, reread]
      exact takes_null
  | .bool value, depth, level => by
      obtain ⟨inner, same⟩ := exists_value_eq depth
      rw [same, layout.write_bool, reread]
      exact takes_bool value
  | .number value, depth, level => by
      obtain ⟨inner, same⟩ := exists_value_eq depth
      rw [same, layout.write_number, reread]
      exact takes_number value
  | .string value, depth, level => by
      obtain ⟨inner, same⟩ := exists_value_eq depth
      rw [same, layout.write_string, reread]
      exact takes_string value
  | .array items, depth, level => by
      intro blanks rest blank _
      rw [Layout.write_array, List.cons_append]
      cases depth with
      | zero =>
          rw [value, valueWith_append blank]
          rfl
      | succ depth =>
          have read := Layout.foldItems_itemsPart (takes_items layout items depth (level + 1)) rest
          rw [value, valueWith_array blank, read, reread]
          cases rereadItems depth items with
          | error fault => rfl
          | ok found => simp [Except.map, bind, Except.bind]
  | .object entries, depth, level => by
      intro blanks rest blank _
      rw [Layout.write_object, List.cons_append]
      cases depth with
      | zero =>
          rw [value, valueWith_append blank]
          rfl
      | succ depth =>
          have read := Layout.foldEntries_entriesPart
            (insertsEntries_keep (takes_entries layout entries depth (level + 1)) .empty) rest
          rw [value, valueWith_object blank, read, reread]
          cases rereadEntries depth entries <;> rfl

theorem takes_items (layout : Layout) : ∀ (items : List Json) (depth level : Nat),
    ∀ item ∈ items, Takes (value depth) (layout.write level item) (reread depth item)
  | [], _, _ => fun _ member => absurd member List.not_mem_nil
  | item :: items, depth, level => List.forall_mem_cons.mpr
      ⟨takes_value layout item depth level, takes_items layout items depth level⟩

theorem takes_entries (layout : Layout) : ∀ (entries : List (String × Json)) (depth level : Nat),
    ∀ entry ∈ entries, Takes (value depth) (layout.write level entry.2) (reread depth entry.2)
  | [], _, _ => fun _ member => absurd member List.not_mem_nil
  | (_, json) :: entries, depth, level => List.forall_mem_cons.mpr
      ⟨takes_value layout json depth level, takes_entries layout entries depth level⟩

end

end

/-- A reader that takes every written form of a value has the same outcome for the whole text. -/
theorem readAll_of_takes {read : Reader Json} {json : Json} {outcome : Except Fault Json}
    {text : String} (taken : ∀ layout level, Takes read (Layout.write layout level json) outcome)
    (written : json.IsWrittenAs text) : readAll read (symbols text) = outcome := by
  obtain ⟨layout, level, blanks, blank, rfl⟩ := written
  have plain : IsPlain (layout.write level json ++ blanks) :=
    (isPlain_append _ _).mpr ⟨layout.isPlain_write level json, isPlain_of_isBlankText blank⟩
  have ends : Ends blanks := by
    rw [← List.append_nil blanks]
    exact ends_append blank trivial
  have found := (taken layout level).apply ends
  have nothing : skipBlanks blanks = [] := by
    rw [← List.append_nil blanks, skipBlanks_append blank]
    rfl
  rw [symbols_ofList plain, readAll, found]
  cases outcome with
  | error fault => rfl
  | ok read =>
      simp only [Except.map, bind, Except.bind, nothing]
      rfl

/-- What a value is read as from every text that it is written as. -/
theorem ofText_eq_reread {json : Json} {text : String} (written : json.IsWrittenAs text) :
    ofText text = reread depthLimit json :=
  readAll_of_takes (fun layout level => takes_value layout json depthLimit level) written

end Json

end DocumentSearch
