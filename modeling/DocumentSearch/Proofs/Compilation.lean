import DocumentSearch.Proofs.Setters
import Mathlib.Algebra.Group.Nat.Defs

/-!
# The search that setters put together

A search is determined by the setters that were accepted before it: its table and its page are those
accepted last, and each of its sections holds one clause for every field that was accepted for the
section, where the field was accepted first and with the predicate that was accepted last.  In the
written search a section is present exactly when it holds a clause.
-/

namespace DocumentSearch

/-- The name of a section in a written query. -/
def Section.name : Section → String
  | .must => "must"
  | .should => "should"
  | .filter => "filter"

/-- The clauses of a section of a query; a query that takes every document has none. -/
def Query.clausesIn (query : Query) (target : Section) : List Clause :=
  match query, target with
  | .matchAll, _ => []
  | .bool query, .must => query.must
  | .bool query, .should => query.should
  | .bool query, .filter => query.filter

/-- The value under a key of an object. -/
def Json.member? (json : Json) (key : String) : Option Json :=
  match json with
  | .object entries => Entries.get? key entries
  | _ => none

/-- A section of a written search. -/
def Json.section? (json : Json) (target : Section) : Option Json := do
  let query ← json.member? "query"
  let bool ← query.member? "bool"
  bool.member? target.name

namespace Draft

theorem compile_of_none {draft : Draft} (unselected : draft.table = none) :
    draft.compile = .error (.invalidState .noTable) := by
  simp [compile, requireTable, unselected, Except.map]

theorem compile_of_some {draft : Draft} {table : String} (selected : draft.table = some table) :
    draft.compile = .ok ⟨table, draft.query, draft.page.offset, draft.page.limit⟩ := by
  simp [compile, requireTable, selected, Except.map]

theorem clausesIn_query (draft : Draft) (target : Section) :
    draft.query.clausesIn target = clauses (draft.conditions target) := by
  unfold query
  split
  · cases target <;> rfl
  · rename_i bare
    have empties : draft.must.entries = [] ∧ draft.should.entries = [] ∧
        draft.filter.entries = [] := by
      simpa [hasConditions, OrderedMap.isEmpty, and_assoc] using bare
    obtain ⟨mustEmpty, shouldEmpty, filterEmpty⟩ := empties
    cases target with
    | must => simp [Query.clausesIn, clauses, conditions, mustEmpty]
    | should => simp [Query.clausesIn, clauses, conditions, shouldEmpty]
    | filter => simp [Query.clausesIn, clauses, conditions, filterEmpty]

end Draft

namespace BoolQuery

theorem get?_entryUnlessEmpty (key name : String) (clauses : List Clause) :
    Entries.get? key (entryUnlessEmpty name clauses) =
      if name = key then
        if clauses.isEmpty then none else some (.array (clauses.map Clause.toJson))
      else none := by
  unfold entryUnlessEmpty
  cases clauses <;> simp [Entries.get?]

theorem member?_toJson (query : BoolQuery) (target : Section) :
    query.toJson.member? target.name =
      if ((Query.bool query).clausesIn target).isEmpty then none
      else some (.array (((Query.bool query).clausesIn target).map Clause.toJson)) := by
  have noCount : Entries.get? target.name ((query.minimumShouldMatch.map fun count =>
      ("minimum_should_match", Json.number (.ofUInt32 count))).toList) = none := by
    cases query.minimumShouldMatch <;> cases target <;> rfl
  unfold toJson Json.member?
  simp only [Entries.get?_append, get?_entryUnlessEmpty, noCount]
  cases target with
  | must => simp [Section.name, Query.clausesIn]
  | should => simp [Section.name, Query.clausesIn]
  | filter => simp [Section.name, Query.clausesIn]

end BoolQuery

/-- A written search has the sections that hold clauses. -/
theorem SearchBody.section?_toJson (body : SearchBody) (target : Section) :
    body.toJson.section? target =
      if (body.query.clausesIn target).isEmpty then none
      else some (.array ((body.query.clausesIn target).map Clause.toJson)) := by
  have written : body.toJson.member? "query" = some body.query.toJson := rfl
  unfold Json.section?
  rw [written]
  cases body.query with
  | matchAll => rfl
  | bool query => exact query.member?_toJson target

/-- What a page passes over and returns, in exact arithmetic. -/
theorem Page.offset_toNat (page : Page) :
    page.offset.toNat = min ((page.number.toNat - 1) * page.size.toNat) (2 ^ 64 - 1) := by
  have size : UInt64.size = 2 ^ 64 := rfl
  rw [offset, largestOffset, UInt64.toNat_ofNat', size]
  exact Nat.mod_eq_of_lt (by omega)

namespace Client

/-- After any setters on a new client, some of which may be refused, there is a search exactly when
a table was accepted.  It is on the table that was accepted last; each of its sections holds one
clause for every field that was accepted for it, in the order of the first and with the predicate of
the last time, and is written exactly when it holds one; and it asks for the page that was accepted
last. -/
theorem compile_attemptAll (setters : List Setter) :
    let accepted := Client.new.accepted setters
    let compiled := (Client.new.attemptAll setters).compile
    let page := (accepted.filterMap Setter.page?).getLast?.getD ⟨1, 50⟩
    ((∃ cause, compiled = .error (.invalidState cause)) ↔ accepted.filterMap Setter.table? = []) ∧
      ∀ table, (accepted.filterMap Setter.table?).getLast? = some table →
        ∃ search, compiled = .ok search ∧ search.table = table ∧
          (∀ target, search.body.query.clausesIn target =
            (Entries.lastWrites (accepted.flatMap (Setter.writes target))).map
              fun entry => ⟨entry.1, entry.2⟩) ∧
          (∀ target, search.body.toJson.section? target =
            if (search.body.query.clausesIn target).isEmpty then none
            else some (.array ((search.body.query.clausesIn target).map Clause.toJson))) ∧
          search.body.offset.toNat =
            min ((page.number.toNat - 1) * page.size.toNat) (2 ^ 64 - 1) ∧
          search.body.limit = page.size := by
  intro accepted compiled page
  have selected : (Client.new.attemptAll setters).draft.table =
      (accepted.filterMap Setter.table?).getLast? :=
    (table_attemptAll Client.new setters).trans (Option.or_none ..)
  have paged : (Client.new.attemptAll setters).draft.page = page :=
    page_attemptAll Client.new setters
  have held : ∀ target, (Client.new.attemptAll setters).draft.query.clausesIn target =
      (Entries.lastWrites (accepted.flatMap (Setter.writes target))).map
        fun entry => ⟨entry.1, entry.2⟩ := by
    intro target
    have start : Client.new.draft.conditions target = .empty := by cases target <;> rfl
    rw [Draft.clausesIn_query, Draft.clauses, conditions_attemptAll, start,
      ← OrderedMap.entries_ofList]
    rfl
  constructor
  · rw [← List.getLast?_eq_none_iff, ← selected]
    cases table : (Client.new.attemptAll setters).draft.table with
    | none => exact iff_of_true ⟨.noTable, Draft.compile_of_none table⟩ rfl
    | some name =>
        have found : compiled = .ok _ := Draft.compile_of_some table
        simp [found]
  · intro table last
    refine ⟨_, Draft.compile_of_some (selected.trans last), rfl, held,
      SearchBody.section?_toJson _, ?_, ?_⟩
    · rw [Page.offset_toNat, paged]
    · rw [paged]
      rfl

/-- Setters of which four are refused: a table without a name, an exact filter that is a match, a page
without a number and an operator that there is not.  The others write fields of two sections twice,
with predicates of different kinds. -/
def mixedSetters : List Setter :=
  [.table "first", .must "x" (.bool true), .table "", .must "y" (.string "storm"),
    .should "x" (.bool false), .filterWith "x" (.matches (.bool true)), .page 0 5,
    .mustCompare "day" " GTE " (.string "2024-01-01"), .shouldCompare "x" "!=" (.bool true),
    .mustWith "x" (.terms [.string "a"]), .shouldCompare "x" "in" (.string "b"), .page 3 20,
    .mustCompare "day" "<" (.string "2025-01-01"), .table "second"]

theorem compile_attemptAll_mixed :
    ((Client.new.accepted mixedSetters).filterMap Setter.table?).getLast? = some "second" ∧
      ∃ search, (Client.new.attemptAll mixedSetters).compile = .ok search ∧
        search.table = "second" ∧
        search.body.query.clausesIn .must =
          [⟨"x", .terms [.string "a"]⟩, ⟨"y", .matches (.string "storm")⟩,
            ⟨"day", .range (Bounds.unbounded.set .lt (.string "2025-01-01"))⟩] ∧
        search.body.query.clausesIn .should = [⟨"x", .terms [.string "b"]⟩] ∧
        search.body.toJson.section? .filter = none ∧
        search.body.offset.toNat = 40 := by
  have last : ((Client.new.accepted mixedSetters).filterMap Setter.table?).getLast? =
      some "second" := by rfl
  obtain ⟨search, compiled, table, held, written, offset, _⟩ :=
    (compile_attemptAll mixedSetters).2 "second" last
  refine ⟨last, search, compiled, table, (held .must).trans ?_, (held .should).trans ?_, ?_, offset⟩
  · rfl
  · rfl
  · rw [written, held]
    rfl

end Client

end DocumentSearch
