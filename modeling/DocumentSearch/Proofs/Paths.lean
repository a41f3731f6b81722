import DocumentSearch.Http.Path
import DocumentSearch.Proofs.Percent
import DocumentSearch.Text.Split
import Mathlib.Data.List.Forall2

/-!
# Names appended to a path

A plain name, that is one without tabs and line breaks that is not made of dots alone, becomes one
segment that decodes to it.  Any other name is changed or adds nothing: `extend_cases` lists what
appending one name can do.  Counting separators shows that a path that grew by as many segments as
there were names took up every one of them, so what the segments spell is what is left of the names.
-/

namespace DocumentSearch

namespace Path

theorem toChars_cons (segment : List Char) (path : Path) :
    toChars (segment :: path) = '/' :: (segment ++ toChars path) := rfl

theorem toChars_append (left right : Path) : toChars (left ++ right) = toChars left ++ toChars right :=
  List.flatMap_append

theorem split_toChars {segments : Path} (free : ∀ segment ∈ segments, '/' ∉ segment) :
    Text.split '/' (toChars segments) = [] :: segments := by
  induction segments with
  | nil => rfl
  | cons segment rest ih =>
      have restFree : ∀ other ∈ rest, '/' ∉ other := fun other member =>
        free other (List.mem_cons_of_mem _ member)
      have here : '/' ∉ segment := free segment List.mem_cons_self
      rw [toChars_cons, Text.split, if_pos rfl]
      cases rest with
      | nil => rw [toChars, List.flatMap_nil, List.append_nil, Text.split_of_not_mem here]
      | cons next others =>
          have later := ih restFree
          rw [toChars_cons, Text.split, if_pos rfl] at later
          rw [toChars_cons, Text.split_append_cons here, List.tail_eq_of_cons_eq later]

theorem eq_of_toChars_eq {left right : Path} (leftFree : ∀ segment ∈ left, '/' ∉ segment)
    (rightFree : ∀ segment ∈ right, '/' ∉ segment) (same : toChars left = toChars right) :
    left = right := by
  have parts := congrArg (Text.split '/') same
  rw [split_toChars leftFree, split_toChars rightFree] at parts
  exact List.tail_eq_of_cons_eq parts

/-- The number of separators in the text of a path. -/
def separators (path : Path) : Nat := (toChars path).count '/'

theorem separators_append (left right : Path) :
    separators (left ++ right) = separators left + separators right := by
  rw [separators, toChars_append, List.count_append]
  rfl

theorem separators_singleton (segment : List Char) :
    separators [segment] = segment.count '/' + 1 := by
  simp [separators, toChars]

theorem separators_of_free {segments : Path} (free : ∀ segment ∈ segments, '/' ∉ segment) :
    separators segments = segments.length := by
  induction segments with
  | nil => rfl
  | cons segment rest ih =>
      have here : segment.count '/' = 0 :=
        List.count_eq_zero_of_not_mem (free segment List.mem_cons_self)
      have later := ih fun other member => free other (List.mem_cons_of_mem _ member)
      change separators ([segment] ++ rest) = _
      rw [separators_append, separators_singleton, here, later, List.length_cons]
      omega

/-- The segments that stay in front of an appended name: the path `/` has none. -/
def shown (path : Path) : Path := if path = root then [] else path

theorem toChars_of_shown_ne_nil {path : Path} (long : shown path ≠ []) :
    toChars path = toChars (shown path) := by
  unfold shown at long ⊢
  split
  · rename_i bare
    exact absurd (if_pos bare) long
  · rfl

theorem separators_shown_le (path : Path) : separators (shown path) ≤ separators path := by
  unfold shown
  split
  · exact Nat.zero_le _
  · exact Nat.le_refl _

theorem shown_of_ne {path : Path} (other : path ≠ root) : shown path = path := if_neg other

/-- A path keeps its segments and gets the new one, except that an empty segment behind the path `/`
leaves that path. -/
theorem shown_push (path : Path) (segment : List Char) :
    shown (push path segment) =
      if shown path = [] ∧ segment = [] then [] else shown path ++ [segment] := by
  unfold push
  by_cases bare : path = root
  · subst bare
    simp [shown, root]
  · rw [if_neg bare, shown_of_ne bare]
    cases path with
    | nil => simp [shown, root]
    | cons first rest => simp [shown, root]

/-- The path after one name. -/
def extend (path : Path) (name : String) : Path :=
  if name = "." ∨ name = ".." then path else appendName path name.toList

theorem append_cons (path : Path) (name : String) (names : List String) :
    append path (name :: names) = append (extend path name) names := rfl

/-- What is left of a name when tabs and line breaks are dropped. -/
def kept (name : String) : List Char := name.toList.filter fun c => !isDropped c

/-- Whether a text is one dot or two. -/
def isDots (text : List Char) : Bool := text = ['.'] || text = ['.', '.']

/-- The segment that holds a text. -/
def segmentOf (text : List Char) : List Char := Percent.encode Percent.reservedInSegment text

theorem slash_not_mem_segmentOf (text : List Char) : '/' ∉ segmentOf text :=
  Percent.not_mem_encode (by decide) (by decide) (by decide) text

theorem segmentOf_injective : Function.Injective segmentOf := by
  intro left right same
  have decoded := congrArg Percent.decode same
  rw [segmentOf, segmentOf, Percent.decode_encode (by decide), Percent.decode_encode (by decide)]
    at decoded
  exact Utf8.encode_injective decoded

theorem segmentOf_eq_nil_iff (text : List Char) : segmentOf text = [] ↔ text = [] := by
  constructor
  · intro empty
    exact segmentOf_injective empty
  · rintro rfl
    rfl

/-- A segment that a name can become. -/
def CanBecome (name : String) (segment : List Char) : Prop :=
  segment = [] ∨ (isDots (kept name) = false ∧ segment = segmentOf (kept name))

theorem slash_not_mem_of_canBecome {name : String} {segment : List Char}
    (became : CanBecome name segment) : '/' ∉ segment := by
  obtain rfl | ⟨_, rfl⟩ := became
  · exact List.not_mem_nil
  · exact slash_not_mem_segmentOf (kept name)

theorem slash_not_mem_of_forall₂ {names : List String} {segments : Path}
    (became : List.Forall₂ CanBecome names segments) : ∀ segment ∈ segments, '/' ∉ segment := by
  induction became with
  | nil => exact fun segment member => absurd member List.not_mem_nil
  | cons here _ ih =>
      rintro segment member
      rcases List.mem_cons.mp member with rfl | later
      · exact slash_not_mem_of_canBecome here
      · exact ih segment later

/-- The path in front of two dots and a separator: nothing is added to it unless its last segment
stays. -/
theorem shown_parent (path : Path) :
    shown (parent path ++ [[]]) = shown path ++ [[]] ∨
      separators (shown (parent path ++ [[]])) ≤ separators (shown path) := by
  rcases List.eq_nil_or_concat path with rfl | ⟨front, last, rfl⟩
  · exact .inr (Nat.le_refl _)
  · rw [List.concat_eq_append]
    unfold parent
    rw [List.getLast?_concat]
    dsimp only
    split
    · rename_i drive
      have notEmpty : last ≠ [] := by
        rintro rfl
        exact absurd drive (by decide)
      have other : front ++ [last] ≠ root := by
        intro same
        have lastSame := congrArg List.getLast? same
        rw [List.getLast?_concat] at lastSame
        exact notEmpty (Option.some.inj lastSame)
      have longer : front ++ [last] ++ [[]] ≠ root := by
        intro same
        have lengths := congrArg List.length same
        simp [root] at lengths
      exact .inl (by rw [shown_of_ne other, shown_of_ne longer])
    · rw [List.dropLast_concat]
      by_cases bare : front = []
      · subst bare
        exact .inr (Nat.zero_le _)
      · have other : front ++ [last] ≠ root := by
          intro same
          have lengths := congrArg List.length same
          simp [root, bare] at lengths
        refine .inr ?_
        calc
          separators (shown (front ++ [[]])) ≤ separators (front ++ [[]]) := separators_shown_le _
          _ ≤ separators (front ++ [last]) := by
            rw [separators_append, separators_append, separators_singleton, separators_singleton]
            simp
          _ = separators (shown (front ++ [last])) := by rw [shown_of_ne other]

/-- A name adds one segment to a path, or the path grows by no separator. -/
theorem extend_cases (path : Path) (name : String) :
    (∃ segment, shown (extend path name) = shown path ++ [segment] ∧ CanBecome name segment) ∨
      separators (shown (extend path name)) ≤ separators (shown path) := by
  have pushed : ∀ segment, CanBecome name segment →
      (∃ added, shown (push path segment) = shown path ++ [added] ∧ CanBecome name added) ∨
        separators (shown (push path segment)) ≤ separators (shown path) := by
    intro segment became
    rw [shown_push]
    split
    · exact .inr (Nat.zero_le _)
    · exact .inl ⟨segment, rfl, became⟩
  unfold extend
  split
  · exact .inr (Nat.le_refl _)
  · unfold appendName
    dsimp only
    split
    · exact pushed [] (.inl rfl)
    · rename_i noDot
      split
      · split
        · exact .inr (Nat.zero_le _)
        · rcases shown_parent path with stays | fewer
          · exact .inl ⟨[], stays, .inl rfl⟩
          · exact .inr fewer
      · rename_i noDots
        have other : isDots (kept name) = false := by
          simp [isDots, kept, noDot, noDots]
        exact pushed _ (.inr ⟨other, rfl⟩)

/-- Names add one segment each to a path, or the path grows by fewer separators than there are
names. -/
theorem append_cases (path : Path) (names : List String) :
    (∃ segments, shown (append path names) = shown path ++ segments ∧
        List.Forall₂ CanBecome names segments) ∨
      separators (shown (append path names)) < separators (shown path) + names.length := by
  induction names generalizing path with
  | nil => exact .inl ⟨[], (List.append_nil _).symm, .nil⟩
  | cons name names ih =>
      rw [append_cons, List.length_cons]
      rcases extend_cases path name with ⟨segment, here, became⟩ | stalled
      · have grown : separators (shown (extend path name)) = separators (shown path) + 1 := by
          rw [here, separators_append, separators_singleton,
            List.count_eq_zero_of_not_mem (slash_not_mem_of_canBecome became)]
        rcases ih (extend path name) with ⟨segments, later, all⟩ | fewer
        · refine .inl ⟨segment :: segments, ?_, .cons became all⟩
          rw [later, here, List.append_assoc]
          rfl
        · exact .inr (by omega)
      · rcases ih (extend path name) with ⟨segments, later, all⟩ | fewer
        · have counted : separators (shown (append (extend path name) names)) =
              separators (shown (extend path name)) + names.length := by
            rw [later, separators_append, separators_of_free (slash_not_mem_of_forall₂ all),
              all.length_eq]
          exact .inr (by omega)
        · exact .inr (by omega)

/-- A path that shows at least as many new segments as there were names, and more than one, shows
what the names became. -/
theorem forall₂_of_toChars_append {path : Path} {names : List String} {segments : Path}
    (written : toChars (append path names) = toChars (shown path) ++ toChars segments)
    (free : ∀ segment ∈ segments, '/' ∉ segment) (enough : names.length ≤ segments.length)
    (several : 1 < segments.length) : List.Forall₂ CanBecome names segments := by
  have counted : separators (append path names) = separators (shown path) + segments.length := by
    rw [← separators_of_free free, ← separators_append, separators, separators, written,
      toChars_append]
  -- Dots may lead back to `/`, whose one separator is too few for several segments.
  have notRoot : append path names ≠ root := by
    intro bare
    rw [bare] at counted
    have single : separators root = 1 := rfl
    omega
  rcases append_cases path names with ⟨added, grown, became⟩ | fewer
  · rw [shown_of_ne notRoot] at grown
    rw [grown, toChars_append] at written
    have same : added = segments :=
      eq_of_toChars_eq (slash_not_mem_of_forall₂ became) free (List.append_cancel_left written)
    exact same ▸ became
  · rw [shown_of_ne notRoot] at fewer
    omega

theorem shown_extend {name : String} (left : kept name ≠ []) (plain : isDots (kept name) = false)
    (path : Path) : shown (extend path name) = shown path ++ [segmentOf (kept name)] := by
  have noDot : kept name ≠ ['.'] := fun same => by rw [same] at plain; exact absurd plain (by decide)
  have noDots : kept name ≠ ['.', '.'] := fun same => by
    rw [same] at plain
    exact absurd plain (by decide)
  have named : ¬(name = "." ∨ name = "..") := by
    rintro (rfl | rfl)
    · exact noDot rfl
    · exact noDots rfl
  have written : segmentOf (kept name) ≠ [] := fun empty =>
    left ((segmentOf_eq_nil_iff (kept name)).mp empty)
  have pushed : extend path name = push path (segmentOf (kept name)) := by
    unfold extend
    rw [if_neg named]
    unfold appendName
    exact (if_neg noDot).trans (if_neg noDots)
  rw [pushed, shown_push, if_neg fun both => written both.2]

/-- The name that the segment of a name holds, if the name gets a segment that is not empty. -/
def spelled? (name : String) : Option String :=
  if kept name = [] ∨ isDots (kept name) then none else some (String.ofList (kept name))

theorem spelled?_eq_some_iff (name text : String) :
    spelled? name = some text ↔
      kept name = text.toList ∧ text ≠ "" ∧ isDots text.toList = false := by
  unfold spelled?
  constructor
  · intro spelled
    split at spelled
    · exact nomatch spelled
    · rename_i left
      obtain ⟨notEmpty, noDots⟩ := not_or.mp left
      obtain rfl := Option.some.inj spelled
      rw [String.toList_ofList]
      refine ⟨rfl, ?_, eq_false_of_ne_true noDots⟩
      intro empty
      exact notEmpty (by simpa using congrArg String.toList empty)
  · rintro ⟨same, named, noDots⟩
    have notEmpty : text.toList ≠ [] := fun empty => named (String.toList_eq_nil_iff.mp empty)
    rw [same, if_neg (by simp [notEmpty, noDots]), String.ofList_toList]

/-- Whether a name is not made of dots alone and holds no tab and no line break. -/
def isPlain (name : String) : Bool :=
  !isDots name.toList && name.toList.all fun c => !isDropped c

theorem spelled?_self_iff {name : String} (named : name ≠ "") :
    spelled? name = some name ↔ isPlain name := by
  rw [spelled?_eq_some_iff, kept, List.filter_eq_self, isPlain, Bool.and_eq_true, List.all_eq_true,
    Bool.not_eq_true']
  exact ⟨fun ⟨clean, _, noDots⟩ => ⟨noDots, clean⟩, fun ⟨noDots, clean⟩ => ⟨clean, named, noDots⟩⟩

theorem spelled?_of_canBecome {name text : String} {segment : List Char}
    (became : CanBecome name segment) (named : text ≠ "")
    (decoded : Percent.decode segment = Utf8.encode text.toList) : spelled? name = some text := by
  obtain rfl | ⟨noDots, rfl⟩ := became
  · have empty : text.toList = [] := (Utf8.encode_eq_nil_iff text.toList).mp decoded.symm
    exact absurd (String.toList_eq_nil_iff.mp empty) named
  · rw [segmentOf, Percent.decode_encode (by decide)] at decoded
    have same := Utf8.encode_injective decoded
    exact (spelled?_eq_some_iff name text).mpr ⟨same, named, same ▸ noDots⟩

/-- Names that spell texts, one by one. -/
def Spelling (names texts : List String) : Prop :=
  List.Forall₂ (fun name text => spelled? name = some text) names texts

/-- Names that spell texts add the segments of the texts. -/
theorem toChars_append_of_spelling {names texts : List String} (many : texts ≠ [])
    (spelling : Spelling names texts) (path : Path) :
    toChars (append path names) =
      toChars (shown path) ++ toChars (texts.map fun text => segmentOf text.toList) := by
  have grown : shown (append path names) =
      shown path ++ texts.map fun text => segmentOf text.toList := by
    clear many
    induction spelling generalizing path with
    | nil => exact (List.append_nil _).symm
    | @cons name text names texts here _ ih =>
        obtain ⟨same, named, noDots⟩ := (spelled?_eq_some_iff name text).mp here
        have notEmpty : kept name ≠ [] := fun empty =>
          named (String.toList_eq_nil_iff.mp (same.symm.trans empty))
        rw [append_cons, ih, shown_extend notEmpty (same ▸ noDots), same, List.append_assoc]
        rfl
  rw [← toChars_append, ← grown]
  refine toChars_of_shown_ne_nil fun empty => many ?_
  rw [grown] at empty
  exact List.map_eq_nil_iff.mp (List.append_eq_nil_iff.mp empty).2

/-- A path that shows segments for several texts behind the old ones was extended by names that
spell the texts. -/
theorem spelling_of_toChars_append {path : Path} {names texts : List String} {segments : Path}
    (written : toChars (append path names) = toChars (shown path) ++ toChars segments)
    (free : ∀ segment ∈ segments, '/' ∉ segment)
    (decoded : segments.map Percent.decode = texts.map fun text => Utf8.encode text.toList)
    (named : ∀ text ∈ texts, text ≠ "") (enough : names.length ≤ texts.length)
    (several : 1 < texts.length) : Spelling names texts := by
  have lengths : segments.length = texts.length := by
    simpa using congrArg List.length decoded
  have became := forall₂_of_toChars_append written free (lengths ▸ enough) (lengths ▸ several)
  clear written free enough several lengths
  induction became generalizing texts with
  | nil =>
      rw [List.map_nil] at decoded
      rw [List.map_eq_nil_iff.mp decoded.symm]
      exact .nil
  | cons here _ ih =>
      cases texts with
      | nil => exact nomatch decoded
      | cons text texts =>
          rw [List.map_cons, List.map_cons, List.cons_eq_cons] at decoded
          refine .cons (spelled?_of_canBecome here (named text List.mem_cons_self) decoded.1) ?_
          exact ih decoded.2 fun other member => named other (List.mem_cons_of_mem _ member)

end Path

end DocumentSearch
