import DocumentSearch.Proofs.Isolation
import DocumentSearch.Proofs.Setters

/-!
# Setters change one part of a draft

A setter that is refused changes nothing.  One that is accepted changes the part of the draft that
it is meant for: the table, the page or the conditions of one section.  Of those conditions it
changes the one on its own field, and the others stay as they are and in the same order.
-/

namespace DocumentSearch

/-- A part of a draft. -/
inductive Part
  | table
  | page
  | conditions (target : Section)
deriving DecidableEq, Repr

/-- Whether two drafts agree, except perhaps in one part. -/
structure Draft.AgreeBut (part : Part) (left right : Draft) : Prop where
  table : part ≠ .table → left.table = right.table
  page : part ≠ .page → left.page = right.page
  conditions : ∀ target, part ≠ .conditions target →
    left.conditions target = right.conditions target

/-- Whether a set of conditions came out of another one by setting the condition on one field. -/
structure ConditionSet.SetsOnly (field : String) (before after : ConditionSet) : Prop where
  /-- The conditions on other fields are the same, in the same order. -/
  others : after.erase field = before.erase field
  /-- There is one condition on the field. -/
  once : after.keys.count field = 1
  /-- The set grows exactly when there was no condition on the field. -/
  size : after.size = before.size + if field ∈ before.keys then 0 else 1

namespace Setter

/-- The part of a draft that a setter is meant for. -/
def part : Setter → Part
  | .table _ => .table
  | .page _ _ => .page
  | .must _ _ | .mustWith _ _ | .mustCompare _ _ _ => .conditions .must
  | .should _ _ | .shouldWith _ _ | .shouldCompare _ _ _ => .conditions .should
  | .filter _ _ | .filterWith _ _ => .conditions .filter

/-- The field on which a setter puts a condition. -/
def field? : Setter → Option String
  | .table _ | .page _ _ => none
  | .must field _ | .mustWith field _ | .mustCompare field _ _ => some field
  | .should field _ | .shouldWith field _ | .shouldCompare field _ _ => some field
  | .filter field _ | .filterWith field _ => some field

theorem part_of_clause? {setter : Setter} {target : Section} {clause : Clause}
    (named : setter.clause? = some (target, clause)) :
    setter.part = .conditions target ∧ setter.field? = some clause.field := by
  cases setter with
  | table name => cases named
  | page number size => cases named
  | mustCompare field operator value | shouldCompare field operator value =>
      simp only [clause?, Option.map_eq_some_iff, Prod.mk.injEq] at named
      obtain ⟨predicate, _, rfl, rfl⟩ := named
      exact ⟨rfl, rfl⟩
  | _ =>
      simp only [clause?, Option.some.injEq, Prod.mk.injEq] at named
      obtain ⟨rfl, rfl⟩ := named
      exact ⟨rfl, rfl⟩

/-- An accepted setter changes the part that it is meant for. -/
theorem agreeBut_of_apply {setter : Setter} {draft next : Draft}
    (accepted : setter.apply draft = .ok next) : Draft.AgreeBut setter.part draft next := by
  obtain ⟨name, rfl, _, rfl⟩ | ⟨number, size, rfl, _, _, rfl⟩ | ⟨target, condition, named, _, rfl⟩ :=
    apply_eq_ok accepted
  · exact ⟨fun other => absurd rfl other, fun _ => rfl, fun target _ => by cases target <;> rfl⟩
  · exact ⟨fun _ => rfl, fun other => absurd rfl other, fun target _ => by cases target <;> rfl⟩
  · rw [(part_of_clause? named).1]
    refine ⟨fun _ => (Draft.table_withConditions ..).symm,
      fun _ => (Draft.page_withConditions ..).symm, ?_⟩
    intro other different
    have apart : other ≠ target := fun same => different (congrArg Part.conditions same.symm)
    exact (Draft.conditions_withConditions_of_ne draft _ apart).symm

/-- An accepted setter of a condition changes only the condition on its field. -/
theorem setsOnly_of_apply {setter : Setter} {draft next : Draft}
    (accepted : setter.apply draft = .ok next) {target : Section} {field : String}
    (meant : setter.part = .conditions target) (given : setter.field? = some field) :
    ConditionSet.SetsOnly field (draft.conditions target) (next.conditions target) := by
  obtain ⟨name, rfl, _, _⟩ | ⟨number, size, rfl, _, _, _⟩ | ⟨written, condition, named, _, rfl⟩ :=
    apply_eq_ok accepted
  · cases meant
  · cases meant
  · obtain ⟨samePart, sameField⟩ := part_of_clause? named
    cases samePart.symm.trans meant
    cases sameField.symm.trans given
    rw [Draft.upsert, Draft.conditions_withConditions_self]
    exact ⟨OrderedMap.erase_insert .., OrderedMap.count_keys_insert .., OrderedMap.size_insert ..⟩

end Setter

namespace Action

/-- A setter makes no call and counts nothing.  When it is refused, which takes an invalid argument,
the draft stays as it is.  When it is accepted the draft changes only in the part that the setter is
meant for, and there only in the condition on its field. -/
theorem set_local {σ : Type} (engine : Engine σ) (client : Client) (state : σ) (setter : Setter) :
    let (next, after, calls) := (Action.set setter).step engine.watched client (state, [])
    after = state ∧ calls = [] ∧ next.tally = client.tally ∧
      (∀ cause : InvalidInput, client.set setter = .error cause → next.draft = client.draft) ∧
      ∀ updated : Client, client.set setter = .ok updated →
        next.draft = updated.draft ∧ Draft.AgreeBut setter.part client.draft next.draft ∧
          ∀ target field, setter.part = .conditions target → setter.field? = some field →
            ConditionSet.SetsOnly field (client.draft.conditions target)
              (next.draft.conditions target) := by
  simp only [step]
  cases outcome : client.set setter with
  | error cause =>
      refine ⟨rfl, rfl, rfl, fun _ _ => rfl, ?_⟩
      intro updated accepted
      cases accepted
  | ok next =>
      obtain ⟨applied, counted⟩ := Client.set_eq_ok outcome
      refine ⟨rfl, rfl, counted, ?_, ?_⟩
      · intro cause refused
        cases refused
      · intro updated accepted
        cases accepted
        exact ⟨rfl, Setter.agreeBut_of_apply applied, fun target field meant given =>
          Setter.setsOnly_of_apply applied meant given⟩

/-- A client that requires two fields and prefers one of them. -/
def requiringClient : Client :=
  { Client.new with
    draft :=
      { Draft.empty with
        table := some "users"
        must := .ofList [("name", .matches (.string "alice")), ("age", .term (.bool true))]
        should := .ofList [("name", .matches (.string "bob"))] } }

/-- A required field that is set again keeps its place beside the other one, and a condition without
a value is refused. -/
theorem set_local_requiring :
    (∃ updated, requiringClient.set (.mustWith "name" (.terms [.bool true])) = .ok updated ∧
        updated.draft.should = requiringClient.draft.should ∧
        (updated.draft.must.erase "name").entries = [("age", .term (.bool true))] ∧
        updated.draft.must.size = 2) ∧
      requiringClient.set (.should "age" .null) = .error .nullValue ∧
      ((Action.set (.should "age" .null)).step Recorder.engine.watched requiringClient
        (.empty, [])).1.draft = requiringClient.draft := by
  have accepted := set_local Recorder.engine requiringClient .empty
    (.mustWith "name" (.terms [.bool true]))
  have refused := set_local Recorder.engine requiringClient .empty (.should "age" .null)
  obtain ⟨_, _, _, _, whenAccepted⟩ := accepted
  obtain ⟨_, _, _, whenRefused, _⟩ := refused
  obtain ⟨same, agree, conditions⟩ := whenAccepted _ rfl
  have only := conditions .must "name" rfl rfl
  rw [same] at agree only
  exact ⟨⟨_, rfl, (agree.conditions .should (by decide)).symm,
    congrArg OrderedMap.entries only.others, only.size⟩, rfl, whenRefused .nullValue rfl⟩

end Action

end DocumentSearch
