import DocumentSearch.Condition.Basic

/-!
# Drafts

A draft is the query that is being put together: the table, three sets of conditions and the page.
A set holds one predicate for each field; setting a field again replaces its predicate in place.
-/

namespace DocumentSearch

/-- A page of hits, counted from one, and its size. -/
structure Page where
  number : UInt64
  size : UInt64
deriving DecidableEq, Repr

namespace Page

/-- The page that is taken when none is asked for. -/
def first : Page := ⟨1, 50⟩

instance : Inhabited Page := ⟨first⟩

/-- A page, unless its number or size is zero. -/
def new (number size : UInt64) : Except InvalidInput Page :=
  if number = 0 then .error .zeroPage
  else if size = 0 then .error .zeroPageSize
  else .ok ⟨number, size⟩

/-- The largest number of hits that can be passed over. -/
def largestOffset : Nat := UInt64.size - 1

/-- How many hits come before the page; a number beyond 64 bits is cut to the largest one. -/
def offset (page : Page) : UInt64 :=
  UInt64.ofNat (min ((page.number.toNat - 1) * page.size.toNat) largestOffset)

/-- How many hits the page holds. -/
def limit (page : Page) : UInt64 := page.size

end Page

/-- One predicate for each field, in the order in which the fields were first set. -/
abbrev ConditionSet := OrderedMap Predicate

namespace ConditionSet

/-- Sets the predicate of the condition's field. -/
def upsert (conditions : ConditionSet) (condition : Condition) : ConditionSet :=
  conditions.insert condition.field condition.predicate

end ConditionSet

/-- The sets of conditions of a draft. -/
inductive Section
  | must
  | should
  | filter
deriving DecidableEq, Repr

/-- A query that is being put together. -/
structure Draft where
  table : Option String
  must : ConditionSet
  should : ConditionSet
  filter : ConditionSet
  page : Page
deriving DecidableEq, Repr

namespace Draft

/-- The draft in which nothing has been set. -/
def empty : Draft := ⟨none, .empty, .empty, .empty, Page.first⟩

instance : Inhabited Draft := ⟨empty⟩

/-- Selects a table. -/
def setTable (draft : Draft) (name : String) : Except InvalidInput Draft :=
  if name = "" then .error .emptyTable else .ok { draft with table := some name }

/-- Selects a page. -/
def setPage (draft : Draft) (number size : UInt64) : Except InvalidInput Draft :=
  (Page.new number size).map fun page => { draft with page }

/-- The conditions of a section. -/
def conditions (draft : Draft) : Section → ConditionSet
  | .must => draft.must
  | .should => draft.should
  | .filter => draft.filter

/-- Replaces the conditions of a section. -/
def withConditions (draft : Draft) (target : Section) (conditions : ConditionSet) : Draft :=
  match target with
  | .must => { draft with must := conditions }
  | .should => { draft with should := conditions }
  | .filter => { draft with filter := conditions }

/-- Sets a condition in a section. -/
def upsert (draft : Draft) (target : Section) (condition : Condition) : Draft :=
  draft.withConditions target ((draft.conditions target).upsert condition)

/-- The selected table. -/
def requireTable (draft : Draft) : Except Error String :=
  match draft.table with
  | some name => .ok name
  | none => .error (.invalidState .noTable)

/-- Whether some section holds a condition. -/
def hasConditions (draft : Draft) : Bool :=
  !(draft.must.isEmpty && draft.should.isEmpty && draft.filter.isEmpty)

/-- Whether nothing has been set. -/
def isReset (draft : Draft) : Bool := decide (draft = empty)

/-- The draft, and the empty one that takes its place. -/
def take (draft : Draft) : Draft × Draft := (draft, empty)

@[simp] theorem conditions_withConditions_self (draft : Draft) (target : Section)
    (conditions : ConditionSet) :
    (draft.withConditions target conditions).conditions target = conditions := by
  cases target <;> rfl

theorem conditions_withConditions_of_ne (draft : Draft) {target other : Section}
    (conditions : ConditionSet) (different : other ≠ target) :
    (draft.withConditions target conditions).conditions other = draft.conditions other := by
  cases target <;> cases other <;> first | rfl | exact absurd rfl different

@[simp] theorem table_withConditions (draft : Draft) (target : Section)
    (conditions : ConditionSet) : (draft.withConditions target conditions).table = draft.table := by
  cases target <;> rfl

@[simp] theorem page_withConditions (draft : Draft) (target : Section)
    (conditions : ConditionSet) : (draft.withConditions target conditions).page = draft.page := by
  cases target <;> rfl

end Draft

end DocumentSearch
