import DocumentSearch.Proofs.Checks
import DocumentSearch.Proofs.OrderedMap

/-!
# Accepted setters

A setter names a table, a page or a clause for one section of the drafted query.  `apply_eq_ok` lists
what an accepted setter can do to a draft, together with what was checked before.  From it follows
what a client drafts in any number of setters, of which some are refused: the table and the page that
were accepted last, and in each section the clauses that were accepted for it, written in order.
-/

namespace DocumentSearch

namespace Setter

/-- The table that a setter names. -/
def table? : Setter → Option String
  | .table name => some name
  | _ => none

/-- The page that a setter names. -/
def page? : Setter → Option Page
  | .page number size => some ⟨number, size⟩
  | _ => none

/-- The clause that a setter names and the section that it is meant for. -/
def clause? : Setter → Option (Section × Clause)
  | .table _ | .page _ _ => none
  | .must field value => some (.must, ⟨field, .matching value⟩)
  | .mustWith field predicate => some (.must, ⟨field, predicate⟩)
  | .mustCompare field operator value =>
      (compared? operator value).map fun predicate => (.must, ⟨field, predicate⟩)
  | .should field value => some (.should, ⟨field, .matching value⟩)
  | .shouldWith field predicate => some (.should, ⟨field, predicate⟩)
  | .shouldCompare field operator value =>
      (compared? operator value).map fun predicate => (.should, ⟨field, predicate⟩)
  | .filter field value => some (.filter, ⟨field, .exact value⟩)
  | .filterWith field predicate => some (.filter, ⟨field, predicate⟩)

/-- What a setter writes into a section: the predicate that it names under its field, if it is meant
for the section. -/
def writes (target : Section) (setter : Setter) : List (String × Predicate) :=
  match setter.clause? with
  | some (meant, clause) => if meant = target then [(clause.field, clause.predicate)] else []
  | none => []

theorem add_eq_ok {draft next : Draft} {target : Section}
    {result : Except InvalidInput Condition}
    (accepted : apply.add draft target result = .ok next) :
    ∃ condition, result = .ok condition ∧ next = draft.upsert target condition := by
  obtain ⟨condition, made, same⟩ := map_eq_ok.mp accepted
  exact ⟨condition, made, same.symm⟩

/-- Everything that an accepted setter can do. -/
theorem apply_eq_ok {setter : Setter} {draft next : Draft}
    (accepted : setter.apply draft = .ok next) :
    (∃ name, setter = .table name ∧ name ≠ "" ∧ next = { draft with table := some name }) ∨
      (∃ number size, setter = .page number size ∧ number ≠ 0 ∧ size ≠ 0 ∧
        next = { draft with page := ⟨number, size⟩ }) ∨
      ∃ target condition, setter.clause? = some (target, .ofCondition condition) ∧
        (target = .filter → condition.predicate.isExact = true) ∧
        next = draft.upsert target condition := by
  cases setter with
  | table name =>
      refine .inl ⟨name, rfl, ?_⟩
      change draft.setTable name = .ok next at accepted
      unfold Draft.setTable at accepted
      split at accepted
      · cases accepted
      · rename_i named
        cases accepted
        exact ⟨named, rfl⟩
  | page number size =>
      refine .inr (.inl ⟨number, size, rfl, ?_⟩)
      obtain ⟨page, checked, rfl⟩ := map_eq_ok.mp accepted
      unfold Page.new at checked
      split at checked
      · cases checked
      · split at checked
        · cases checked
        · rename_i positiveNumber positiveSize
          cases checked
          exact ⟨positiveNumber, positiveSize, rfl⟩
  | must field value | mustWith field predicate | should field value | shouldWith field predicate =>
      obtain ⟨condition, made, rfl⟩ := add_eq_ok accepted
      obtain ⟨rfl, samePredicate⟩ := Condition.new_eq_ok made
      refine .inr (.inr ⟨_, condition, ?_, ?_, rfl⟩)
      · rw [Clause.ofCondition, samePredicate]
        rfl
      · intro exactly
        cases exactly
  | mustCompare field operator value | shouldCompare field operator value =>
      obtain ⟨condition, made, rfl⟩ := add_eq_ok accepted
      obtain ⟨rfl, compared⟩ := compare_eq_ok made
      refine .inr (.inr ⟨_, condition, ?_, ?_, rfl⟩)
      · rw [clause?, compared]
        rfl
      · intro exactly
        cases exactly
  | filter field value | filterWith field predicate =>
      obtain ⟨condition, made, rfl⟩ := add_eq_ok accepted
      obtain ⟨rfl, samePredicate, exactly⟩ := filterCondition_eq_ok made
      refine .inr (.inr ⟨_, condition, ?_, ?_, rfl⟩)
      · rw [Clause.ofCondition, samePredicate]
        rfl
      · intro _
        rw [samePredicate]
        exact exactly

theorem of_clause?_eq_some {setter : Setter} {named : Section × Clause}
    (names : setter.clause? = some named) : setter.table? = none ∧ setter.page? = none := by
  cases setter with
  | table name => cases names
  | page number size => cases names
  | _ => exact ⟨rfl, rfl⟩

theorem table_of_apply {setter : Setter} {draft next : Draft}
    (accepted : setter.apply draft = .ok next) : next.table = setter.table?.or draft.table := by
  obtain ⟨name, rfl, _, rfl⟩ | ⟨number, size, rfl, _, _, rfl⟩ | ⟨target, condition, named, _, rfl⟩ :=
    apply_eq_ok accepted
  · rfl
  · rfl
  · rw [(of_clause?_eq_some named).1]
    exact Draft.table_withConditions ..

theorem page_of_apply {setter : Setter} {draft next : Draft}
    (accepted : setter.apply draft = .ok next) : next.page = setter.page?.getD draft.page := by
  obtain ⟨name, rfl, _, rfl⟩ | ⟨number, size, rfl, _, _, rfl⟩ | ⟨target, condition, named, _, rfl⟩ :=
    apply_eq_ok accepted
  · rfl
  · rfl
  · rw [(of_clause?_eq_some named).2]
    exact Draft.page_withConditions ..

/-- An accepted setter inserts what it writes into a section and leaves the other sections alone. -/
theorem conditions_of_apply {setter : Setter} {draft next : Draft}
    (accepted : setter.apply draft = .ok next) (target : Section) :
    next.conditions target = (draft.conditions target).insertAll (setter.writes target) := by
  obtain ⟨name, rfl, _, rfl⟩ | ⟨number, size, rfl, _, _, rfl⟩ | ⟨meant, condition, named, _, rfl⟩ :=
    apply_eq_ok accepted
  · cases target <;> rfl
  · cases target <;> rfl
  · rw [writes, named, Draft.upsert]
    by_cases same : meant = target
    · subst same
      rw [Draft.conditions_withConditions_self]
      simp [Clause.ofCondition, ConditionSet.upsert, OrderedMap.insertAll]
    · have other : target ≠ meant := fun equal => same equal.symm
      rw [Draft.conditions_withConditions_of_ne draft _ other]
      simp [same, OrderedMap.insertAll]

end Setter

namespace Client

/-- The client after a setter; a refused one changes nothing. -/
def attempt (client : Client) (setter : Setter) : Client :=
  match client.set setter with
  | .ok next => next
  | .error _ => client

/-- The client after setters in order. -/
def attemptAll (client : Client) (setters : List Setter) : Client :=
  setters.foldl attempt client

/-- The setters of a sequence that the client accepts when it comes to them. -/
def accepted (client : Client) : List Setter → List Setter
  | [] => []
  | setter :: rest =>
      match client.set setter with
      | .ok next => setter :: accepted next rest
      | .error _ => accepted client rest

theorem set_eq_ok {client next : Client} {setter : Setter} (accepted : client.set setter = .ok next) :
    setter.apply client.draft = .ok next.draft ∧ next.tally = client.tally := by
  obtain ⟨draft, applied, rfl⟩ := map_eq_ok.mp accepted
  exact ⟨applied, rfl⟩

/-- Each section holds what the accepted setters wrote into it. -/
theorem conditions_attemptAll (client : Client) (setters : List Setter) (target : Section) :
    (client.attemptAll setters).draft.conditions target =
      (client.draft.conditions target).insertAll
        ((client.accepted setters).flatMap (Setter.writes target)) := by
  induction setters generalizing client with
  | nil => rfl
  | cons setter rest ih =>
      change ((client.attempt setter).attemptAll rest).draft.conditions target = _
      rw [ih, attempt, accepted]
      cases outcome : client.set setter with
      | error cause => rfl
      | ok next =>
          have written := Setter.conditions_of_apply (set_eq_ok outcome).1 target
          rw [List.flatMap_cons, OrderedMap.insertAll_append, written]

/-- Whatever an accepted setter overwrites with what it names is what was named last. -/
theorem last_attemptAll {β : Type} (name? : Setter → Option β) (read : Draft → Option β)
    (overwrites : ∀ {setter : Setter} {draft next : Draft}, setter.apply draft = .ok next →
      read next = (name? setter).or (read draft))
    (client : Client) (setters : List Setter) :
    read (client.attemptAll setters).draft =
      ((client.accepted setters).filterMap name?).getLast?.or (read client.draft) := by
  induction setters generalizing client with
  | nil => rfl
  | cons setter rest ih =>
      change read ((client.attempt setter).attemptAll rest).draft = _
      rw [ih, attempt, accepted]
      cases outcome : client.set setter with
      | error cause => rfl
      | ok next =>
          have overwritten := overwrites (set_eq_ok outcome).1
          cases named : name? setter with
          | none => simp [overwritten, named]
          | some value =>
              cases later : ((next.accepted rest).filterMap name?).getLast? with
              | none => simp [overwritten, named, later, List.getLast?_cons]
              | some _ => simp [named, later, List.getLast?_cons]

theorem table_attemptAll (client : Client) (setters : List Setter) :
    (client.attemptAll setters).draft.table =
      ((client.accepted setters).filterMap Setter.table?).getLast?.or client.draft.table :=
  last_attemptAll Setter.table? Draft.table Setter.table_of_apply client setters

theorem page_attemptAll (client : Client) (setters : List Setter) :
    (client.attemptAll setters).draft.page =
      ((client.accepted setters).filterMap Setter.page?).getLast?.getD client.draft.page := by
  have last := last_attemptAll Setter.page? (fun draft => some draft.page)
    (fun accepted => by rw [Option.or_some, Setter.page_of_apply accepted]) client setters
  rw [Option.or_some] at last
  exact Option.some.inj last

end Client

end DocumentSearch
