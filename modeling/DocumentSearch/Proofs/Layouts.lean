import DocumentSearch.Proofs.Printing
import DocumentSearch.Proofs.Reading

/-!
# Layouts of printed values

The compact and the indented form of a value differ in the blanks between its tokens only, so both are
cases of one layout.  A text that is written in some layout holds no character that would be changed
when it is read.
-/

namespace DocumentSearch

namespace Json

/-- The blanks of a written form: in front of the items, the entries and the closing bracket of each
level, and behind a colon. -/
structure Layout where
  line : Nat → List Char
  gap : List Char
  line_blank : ∀ level, IsBlankText (line level)
  gap_blank : IsBlankText gap

namespace Layout

/-- No blanks at all. -/
def tight : Layout := ⟨fun _ => [], [], fun _ => isBlankText_nil, isBlankText_nil⟩

theorem isBlankText_newline (level : Nat) : IsBlankText (newline level) := by
  intro c member
  obtain rfl | inside := List.mem_cons.mp member
  · rfl
  · rw [List.eq_of_mem_replicate inside]
    rfl

/-- A line for each item and each entry. -/
def spread : Layout where
  line := newline
  gap := [' ']
  line_blank := isBlankText_newline
  gap_blank c member := by
    rw [List.mem_singleton.mp member]
    rfl

@[simp] theorem line_tight (level : Nat) : tight.line level = [] := rfl

@[simp] theorem gap_tight : tight.gap = [] := rfl

@[simp] theorem line_spread (level : Nat) : spread.line level = newline level := rfl

@[simp] theorem gap_spread : spread.gap = [' '] := rfl

section

variable (layout : Layout)

mutual

/-- The written form of a value that starts at the given level. -/
def write (level : Nat) : Json → List Char
  | .array (item :: rest) =>
      '[' :: layout.line (level + 1) ++ write (level + 1) item ++ writeItems (level + 1) rest ++
        layout.line level ++ [']']
  | .object ((key, value) :: rest) =>
      '{' :: layout.line (level + 1) ++ quote key.toList ++ ':' :: layout.gap ++
        write (level + 1) value ++ writeEntries (level + 1) rest ++ layout.line level ++ ['}']
  | json => compact json

/-- The items after the first, each behind a comma. -/
def writeItems (level : Nat) : List Json → List Char
  | [] => []
  | item :: rest => ',' :: layout.line level ++ write level item ++ writeItems level rest

/-- The entries after the first, each behind a comma. -/
def writeEntries (level : Nat) : List (String × Json) → List Char
  | [] => []
  | (key, value) :: rest =>
      ',' :: layout.line level ++ quote key.toList ++ ':' :: layout.gap ++ write level value ++
        writeEntries level rest

end

end

section

variable (layout : Layout) (level : Nat)

@[simp] theorem write_null : layout.write level .null = compact .null := by simp [write]

@[simp] theorem write_bool (value : Bool) :
    layout.write level (.bool value) = compact (.bool value) := by simp [write]

@[simp] theorem write_number (value : Number) :
    layout.write level (.number value) = compact (.number value) := by simp [write]

@[simp] theorem write_string (value : String) :
    layout.write level (.string value) = compact (.string value) := by simp [write]

end

mutual

/-- The compact form is the layout without blanks. -/
theorem write_tight (level : Nat) : ∀ json : Json, tight.write level json = compact json
  | .null | .bool _ | .number _ | .string _ | .array [] | .object [] => by rw [write] <;> simp
  | .array (item :: rest) => by
      simp [write, compact, write_tight (level + 1) item, writeItems_tight (level + 1) rest]
  | .object ((key, value) :: rest) => by
      simp [write, compact, write_tight (level + 1) value, writeEntries_tight (level + 1) rest]

theorem writeItems_tight (level : Nat) : ∀ items : List Json,
    tight.writeItems level items = compactItems items
  | [] => rfl
  | item :: rest => by
      simp [writeItems, compactItems, write_tight level item, writeItems_tight level rest]

theorem writeEntries_tight (level : Nat) : ∀ entries : List (String × Json),
    tight.writeEntries level entries = compactEntries entries
  | [] => rfl
  | (key, value) :: rest => by
      simp [writeEntries, compactEntries, write_tight level value, writeEntries_tight level rest]

end

mutual

/-- The indented form is the layout with a line for each item and each entry. -/
theorem write_spread (level : Nat) : ∀ json : Json, spread.write level json = indented level json
  | .null | .bool _ | .number _ | .string _ | .array [] | .object [] => by
      rw [write, indented] <;> simp
  | .array (item :: rest) => by
      simp [write, indented, write_spread (level + 1) item, writeItems_spread (level + 1) rest]
  | .object ((key, value) :: rest) => by
      simp [write, indented, write_spread (level + 1) value, writeEntries_spread (level + 1) rest]

theorem writeItems_spread (level : Nat) : ∀ items : List Json,
    spread.writeItems level items = indentedItems level items
  | [] => rfl
  | item :: rest => by
      simp [writeItems, indentedItems, write_spread level item, writeItems_spread level rest]

theorem writeEntries_spread (level : Nat) : ∀ entries : List (String × Json),
    spread.writeEntries level entries = indentedEntries level entries
  | [] => rfl
  | (key, value) :: rest => by
      simp [writeEntries, indentedEntries, write_spread level value, writeEntries_spread level rest]

end

variable {layout : Layout} {level : Nat}

/-- The items of an array and its closing bracket. -/
def itemsPart (layout : Layout) (level : Nat) : List Json → List Char
  | [] => [']']
  | item :: items =>
      layout.line (level + 1) ++ (layout.write (level + 1) item ++
        (layout.writeItems (level + 1) items ++ (layout.line level ++ [']'])))

theorem write_array (items : List Json) :
    layout.write level (.array items) = '[' :: layout.itemsPart level items := by
  cases items <;> simp [write, compact, itemsPart]

/-- What stands behind the key of an entry. -/
def valuePart (layout : Layout) (level : Nat) (value : Json) : List Char :=
  ':' :: (layout.gap ++ layout.write level value)

/-- The entries of an object and its closing brace. -/
def entriesPart (layout : Layout) (level : Nat) : List (String × Json) → List Char
  | [] => ['}']
  | (key, value) :: entries =>
      layout.line (level + 1) ++ (quote key.toList ++ (layout.valuePart (level + 1) value ++
        (layout.writeEntries (level + 1) entries ++ (layout.line level ++ ['}']))))

theorem write_object (entries : List (String × Json)) :
    layout.write level (.object entries) = '{' :: layout.entriesPart level entries := by
  cases entries <;> simp [write, compact, entriesPart, valuePart]

end Layout

/-! ## Whole texts -/

/-- Whether no character of a text is changed when it is read. -/
def IsPlain (text : List Char) : Prop := ∀ c ∈ text, symbol c = c

@[simp] theorem isPlain_cons (c : Char) (text : List Char) :
    IsPlain (c :: text) ↔ symbol c = c ∧ IsPlain text := List.forall_mem_cons

@[simp] theorem isPlain_append (left right : List Char) :
    IsPlain (left ++ right) ↔ IsPlain left ∧ IsPlain right := List.forall_mem_append

theorem isPlain_nil : IsPlain [] := fun _ member => absurd member List.not_mem_nil

theorem isPlain_of_controlFree {text : List Char} (free : Text.ControlFree text) : IsPlain text := by
  intro c member
  refine if_neg ?_
  rintro rfl
  exact absurd (free badByte member) (by decide)

theorem isPlain_of_isBlankText {text : List Char} (blank : IsBlankText text) : IsPlain text := by
  intro c member
  refine if_neg ?_
  rintro rfl
  cases blank badByte member

theorem isPlain_quote (text : List Char) : IsPlain (quote text) :=
  isPlain_of_controlFree (controlFree_quote text)

theorem isPlain_compact (json : Json) : IsPlain (compact json) :=
  isPlain_of_controlFree (controlFree_compact json)

namespace Layout

variable (layout : Layout)

theorem isPlain_line (level : Nat) : IsPlain (layout.line level) :=
  isPlain_of_isBlankText (layout.line_blank level)

theorem isPlain_gap : IsPlain layout.gap := isPlain_of_isBlankText layout.gap_blank

mutual

theorem isPlain_write (level : Nat) : ∀ json : Json, IsPlain (layout.write level json)
  | .null | .bool _ | .number _ | .string _ | .array [] | .object [] => by
      rw [write]
      · exact isPlain_compact _
      · simp
      · simp
  | .array (item :: rest) => by
      have mark : symbol '[' = '[' ∧ symbol ']' = ']' := by decide
      simp [write, mark, isPlain_nil, layout.isPlain_line, isPlain_write (level + 1) item,
        isPlain_writeItems (level + 1) rest]
  | .object ((key, value) :: rest) => by
      have mark : symbol '{' = '{' ∧ symbol '}' = '}' ∧ symbol ':' = ':' := by decide
      simp [write, mark, isPlain_nil, layout.isPlain_line, layout.isPlain_gap, isPlain_quote,
        isPlain_write (level + 1) value, isPlain_writeEntries (level + 1) rest]

theorem isPlain_writeItems (level : Nat) :
    ∀ items : List Json, IsPlain (layout.writeItems level items)
  | [] => isPlain_nil
  | item :: rest => by
      have mark : symbol ',' = ',' := by decide
      simp [writeItems, mark, layout.isPlain_line, isPlain_write level item,
        isPlain_writeItems level rest]

theorem isPlain_writeEntries (level : Nat) :
    ∀ entries : List (String × Json), IsPlain (layout.writeEntries level entries)
  | [] => isPlain_nil
  | (key, value) :: rest => by
      have mark : symbol ',' = ',' ∧ symbol ':' = ':' := by decide
      simp [writeEntries, mark, layout.isPlain_line, layout.isPlain_gap, isPlain_quote,
        isPlain_write level value, isPlain_writeEntries level rest]

end

end Layout

theorem symbols_ofList {text : List Char} (plain : IsPlain text) :
    symbols (String.ofList text) = text := by
  rw [symbols, String.toList_ofList, List.map_congr_left plain, List.map_id']

/-- Whether a text is a written form of a value, with any blanks behind it. -/
def IsWrittenAs (json : Json) (text : String) : Prop :=
  ∃ (layout : Layout) (level : Nat) (blanks : List Char), IsBlankText blanks ∧
    text = String.ofList (layout.write level json ++ blanks)

theorem isWrittenAs_toText (json : Json) : json.IsWrittenAs json.toText :=
  ⟨.tight, 0, [], isBlankText_nil, by rw [toText, Layout.write_tight, List.append_nil]⟩

theorem isWrittenAs_toIndentedText (json : Json) : json.IsWrittenAs json.toIndentedText :=
  ⟨.spread, 0, [], isBlankText_nil, by rw [toIndentedText, Layout.write_spread, List.append_nil]⟩

theorem isWrittenAs_line (json : Json) : json.IsWrittenAs (json.toIndentedText ++ "\n") := by
  refine ⟨.spread, 0, ['\n'], Layout.isBlankText_newline 0, ?_⟩
  rw [toIndentedText, Layout.write_spread, String.ofList_append]

end Json

end DocumentSearch
