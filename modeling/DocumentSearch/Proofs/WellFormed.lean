import DocumentSearch.Proofs.Compilation
import DocumentSearch.Proofs.Isolation

/-!
# Drafts are well formed

What a client has drafted can be sent as it is, whatever was asked of the client before and however
the engine answered.  Only accepted setters add to a draft, and everything else that a client does
keeps it or leaves the empty one (`Client.Reachable.draft_induction`), so it is enough that accepted
setters keep drafts well formed.
-/

namespace DocumentSearch

/-- The clients that actions lead to on an engine, in whatever state each of them finds it. -/
inductive Client.Reachable {σ : Type} (engine : Engine σ) : Client → Prop
  | new : Reachable engine Client.new
  | step {client : Client} (reached : Reachable engine client) (action : Action) (state : σ) :
      Reachable engine (action.step engine client state).1

/-- Whether a value is a string, a number or a truth value. -/
def Json.IsScalar : Json → Prop
  | .null | .array _ | .object _ => False
  | .bool _ | .number _ | .string _ => True

/-- Whether a predicate compares a field with a single value, with one or more of them, or with a
bound. -/
def Predicate.IsWellFormed : Predicate → Prop
  | .matches value | .term value => value.IsScalar
  | .terms values => values ≠ [] ∧ ∀ value ∈ values, value.IsScalar
  | .range bounds => ∃ side bound, bounds.get side = some bound

/-- Whether a draft is one that can be sent. -/
structure Draft.IsWellFormed (draft : Draft) : Prop where
  named : draft.table ≠ some ""
  /-- No section holds two conditions on one field. -/
  distinct : ∀ target, (draft.conditions target).keys.Nodup
  /-- Every condition is on a named field, passes its check, and is exact if it is a filter. -/
  sound : ∀ target field predicate, (field, predicate) ∈ (draft.conditions target).entries →
    field ≠ "" ∧ predicate.validate = .ok () ∧ predicate.IsWellFormed ∧
      (target = .filter → predicate.isExact = true)
  /-- Pages are counted from one and hold something. -/
  paged : 1 ≤ draft.page.number ∧ 1 ≤ draft.page.size

/-! ## Checked predicates -/

theorem Side.mem_all (side : Side) : side ∈ all := by
  cases side <;> decide

namespace Predicate

theorem checkScalar_eq_ok_iff {value : Json} {passed : Unit} :
    checkScalar value = .ok passed ↔ value.IsScalar := by
  cases value <;> simp [checkScalar, Json.IsScalar]

theorem checkScalars_eq_ok_iff {values : List Json} {passed : Unit} :
    checkScalars values = .ok passed ↔ ∀ value ∈ values, value.IsScalar := by
  induction values with
  | nil => simp [checkScalars]
  | cons value rest ih =>
      have first : checkScalar value = .ok () ↔ value.IsScalar := checkScalar_eq_ok_iff
      rw [checkScalars, List.forall_mem_cons, ← first, ← ih]
      cases checkScalar value with
      | error cause => simp
      | ok _ => simp

theorem isUnbounded_eq_false_iff {bounds : Bounds} :
    bounds.isUnbounded = false ↔ ∃ side bound, bounds.get side = some bound := by
  rw [Bounds.isUnbounded, List.all_eq_false]
  constructor
  · rintro ⟨side, _, bounded⟩
    exact ⟨side, Option.ne_none_iff_exists'.mp fun free => bounded (by rw [free]; rfl)⟩
  · rintro ⟨side, bound, found⟩
    exact ⟨side, side.mem_all, by simp [found]⟩

theorem validate_eq_ok_iff {predicate : Predicate} {passed : Unit} :
    predicate.validate = .ok passed ↔ predicate.IsWellFormed := by
  cases predicate with
  | «matches» value => exact checkScalar_eq_ok_iff
  | term value => exact checkScalar_eq_ok_iff
  | terms values =>
      cases values with
      | nil => simp [validate, IsWellFormed]
      | cons value rest =>
          rw [validate, checkScalars_eq_ok_iff]
          · simp [IsWellFormed]
          · simp
  | range bounds =>
      rw [validate, IsWellFormed, ← isUnbounded_eq_false_iff]
      cases bounds.isUnbounded <;> simp

end Predicate

/-! ## Drafts -/

theorem Page.one_le_iff {value : UInt64} : 1 ≤ value ↔ value ≠ 0 := by
  rw [UInt64.le_iff_toNat_le, ne_eq, ← UInt64.toNat_inj]
  exact Nat.one_le_iff_ne_zero

namespace Draft

theorem get?_conditions_upsert (draft : Draft) (target other : Section) (condition : Condition)
    (field : String) :
    ((draft.upsert target condition).conditions other).get? field =
      if target = other ∧ condition.field = field then some condition.predicate
      else (draft.conditions other).get? field := by
  rw [upsert]
  by_cases same : target = other
  · subst same
    rw [conditions_withConditions_self, ConditionSet.upsert, OrderedMap.get?_insert]
    simp
  · rw [conditions_withConditions_of_ne draft _ fun equal => same equal.symm]
    simp [same]

theorem isWellFormed_empty : empty.IsWellFormed where
  named := fun named => by cases named
  distinct target := OrderedMap.distinct _
  sound target field predicate held := by cases target <;> cases held
  paged := by decide

theorem IsWellFormed.of_apply {setter : Setter} {draft next : Draft}
    (wellFormed : draft.IsWellFormed) (accepted : setter.apply draft = .ok next) :
    next.IsWellFormed := by
  obtain ⟨name, rfl, named, rfl⟩ | ⟨number, size, rfl, numbered, sized, rfl⟩ |
      ⟨target, condition, _, exactly, rfl⟩ := Setter.apply_eq_ok accepted
  · refine ⟨fun same => named (Option.some.inj same), fun _ => OrderedMap.distinct _, ?_,
      wellFormed.paged⟩
    intro target field predicate held
    exact wellFormed.sound target field predicate (by cases target <;> exact held)
  · refine ⟨wellFormed.named, fun _ => OrderedMap.distinct _, ?_,
      Page.one_le_iff.mpr numbered, Page.one_le_iff.mpr sized⟩
    intro target field predicate held
    exact wellFormed.sound target field predicate (by cases target <;> exact held)
  · refine ⟨?_, fun _ => OrderedMap.distinct _, ?_, ?_⟩
    · rw [upsert, table_withConditions]
      exact wellFormed.named
    · intro other field predicate held
      rw [OrderedMap.mem_entries_iff, get?_conditions_upsert] at held
      split at held
      · -- The condition that is set carries the proofs of its own checks.
        rename_i written
        obtain ⟨rfl, rfl⟩ := written
        cases held
        exact ⟨condition.named, condition.wellFormed,
          Predicate.validate_eq_ok_iff.mp condition.wellFormed, exactly⟩
      · exact wellFormed.sound other field predicate ((OrderedMap.mem_entries_iff ..).mpr held)
    · rw [upsert, page_withConditions]
      exact wellFormed.paged

theorem offset_of_compile {draft : Draft} {search : Search} (compiled : draft.compile = .ok search) :
    search.body.offset = draft.page.offset := by
  obtain ⟨table, _, rfl⟩ := map_eq_ok.mp compiled
  rfl

end Draft

theorem Page.toNat_number_sub_one {page : Page} (numbered : 1 ≤ page.number) :
    (page.number - 1).toNat = page.number.toNat - 1 :=
  UInt64.toNat_sub_of_le page.number 1 numbered

/-! ## Clients -/

namespace Client

variable {σ : Type} {engine : Engine σ} {client : Client}

theorem Reachable.run (reached : client.Reachable engine) (actions : List Action) (state : σ) :
    (Action.run engine actions client state).1.Reachable engine := by
  induction actions generalizing client state with
  | nil => exact reached
  | cons action rest ih => exact ih (reached.step action state) _

/-- What the empty draft has and accepted setters keep, the draft of every reachable client has. -/
theorem Reachable.draft_induction {motive : Draft → Prop} (empty : motive .empty)
    (set : ∀ {setter : Setter} {draft next : Draft}, motive draft →
      setter.apply draft = .ok next → motive next)
    (reached : client.Reachable engine) : motive client.draft := by
  induction reached with
  | new => exact empty
  | step reached action state ih =>
      rename_i before
      rw [Action.draft_step]
      cases action with
      | set setter =>
          simp only [Action.draftAfter]
          cases applied : setter.apply before.draft with
          | error cause => exact ih
          | ok next => exact set ih applied
      | reset => exact empty
      | preview => exact ih
      | perform kind operation seconds =>
          simp only [Action.draftAfter, Operation.leaves]
          split
          · exact empty
          · exact ih

theorem Reachable.isWellFormed (reached : client.Reachable engine) : client.draft.IsWellFormed :=
  reached.draft_induction Draft.isWellFormed_empty Draft.IsWellFormed.of_apply

/-- The draft of a reachable client is well formed.  So one can be taken from its page number in 64
bits, and from that the offset of a previewed and of a sent search is computed. -/
theorem draft_well_formed (reached : client.Reachable engine) :
    let page := client.draft.page
    client.draft.IsWellFormed ∧ (page.number - 1).toNat + 1 = page.number.toNat ∧
      ∀ search, client.compile = .ok search ∨
          Operation.get.plan client.draft = .ok (.search search) →
        search.body.offset.toNat =
          min ((page.number - 1).toNat * page.size.toNat) (2 ^ 64 - 1) := by
  intro page
  have wellFormed := reached.isWellFormed
  have before : (page.number - 1).toNat = page.number.toNat - 1 :=
    Page.toNat_number_sub_one wellFormed.paged.1
  have numbered : 1 ≤ page.number.toNat := UInt64.le_iff_toNat_le.mp wellFormed.paged.1
  refine ⟨wellFormed, by omega, ?_⟩
  intro search sent
  have compiled : client.draft.compile = .ok search := by
    rcases sent with previewed | planned
    · exact previewed
    · obtain ⟨planned, compiled, same⟩ := map_eq_ok.mp planned
      cases same
      exact compiled
  rw [Draft.offset_of_compile compiled, Page.offset_toNat, before]

/-- A client that selected a table, replaced a required word by a set of words, was refused a filter
by full text, and asked for a page whose offset does not fit into 64 bits. -/
def farClient : Client :=
  let actions : List Action :=
    [.set (.table "stories"), .set (.must "title" (.string "storm")),
      .set (.must "title" (.array [.string "storm", .bool true])),
      .set (.filterWith "title" (.matches (.string "storm"))),
      .set (.filter "year" (.number (.ofInt64 2024))), .set (.page 9223372036854775809 4)]
  (Action.run Recorder.engine actions new .empty).1

theorem draft_well_formed_far :
    farClient.Reachable Recorder.engine ∧ farClient.draft.IsWellFormed ∧
      farClient.draft.filter.keys = ["year"] ∧
      ∃ search, farClient.compile = .ok search ∧ search.body.offset.toNat = 2 ^ 64 - 1 := by
  have reached : farClient.Reachable Recorder.engine := Reachable.new.run _ _
  obtain ⟨wellFormed, _, offset⟩ := draft_well_formed reached
  exact ⟨reached, wellFormed, rfl, _, rfl, (offset _ (.inl rfl)).trans rfl⟩

end Client

end DocumentSearch
