import DocumentSearch.Proofs.Isolation

/-!
# What an engine sees of a run

An action makes at most one call, and which one is told from the draft.  So the calls of a run are
told before it starts (`Action.calls`), and the engine is left as these calls leave it
(`Action.state_run`), whatever it answers on the way.
-/

namespace DocumentSearch

/-- The state that calls in order leave an engine in. -/
def Engine.after {σ : Type} (engine : Engine σ) (calls : List LoggedCall) (state : σ) : σ :=
  calls.foldl (fun state logged => (engine.answer logged.call state).2) state

namespace Action

/-- The call that an action makes on a draft: the planned one, for an operation that is not
refused. -/
def call? (action : Action) (draft : Draft) : Option LoggedCall :=
  match action with
  | .perform kind operation _ =>
      match operation.plan draft with
      | .ok call => some (LoggedCall.mk kind call)
      | .error _ => none
  | .set _ | .reset | .preview => none

/-- The calls that actions in order make, starting from a draft. -/
def calls : List Action → Draft → List LoggedCall
  | [], _ => []
  | action :: rest, draft => (action.call? draft).toList ++ calls rest (action.draftAfter draft)

end Action

namespace Engine

variable {σ : Type} (engine : Engine σ)

theorem after_append (before later : List LoggedCall) (state : σ) :
    engine.after (before ++ later) state = engine.after later (engine.after before state) :=
  List.foldl_append

theorem after_watched (calls earlier : List LoggedCall) (state : σ) :
    engine.watched.after calls (state, earlier) = (engine.after calls state, earlier ++ calls) := by
  induction calls generalizing state earlier with
  | nil => simp [after]
  | cons logged rest ih =>
      have answered := ih (earlier ++ [logged]) (engine.answer logged.call state).2
      rw [List.append_assoc] at answered
      exact answered

end Engine

namespace Action

variable {σ : Type} (engine : Engine σ)

/-- An action leaves the engine as its call does, if it makes one. -/
theorem state_step (action : Action) (client : Client) (state : σ) :
    (action.step engine client state).2 =
      engine.after (action.call? client.draft).toList state := by
  cases action with
  | set setter =>
      simp only [step]
      cases client.set setter <;> rfl
  | reset => rfl
  | preview => rfl
  | perform kind operation seconds =>
      simp only [step, call?, Client.perform]
      cases operation.plan client.draft with
      | error error => rfl
      | ok call => rfl

theorem call?_eq_none_iff {action : Action} {draft : Draft} :
    action.call? draft = none ↔
      ∀ kind operation seconds, action = .perform kind operation seconds →
        ∃ error, operation.plan draft = .error error := by
  cases action with
  | set setter | reset | preview => simp [call?]
  | perform kind operation seconds =>
      cases planned : operation.plan draft with
      | error error =>
          refine iff_of_true (by simp [call?, planned]) ?_
          rintro _ _ _ ⟨⟩
          exact ⟨error, planned⟩
      | ok call =>
          refine iff_of_false (by simp [call?, planned]) fun refused => ?_
          obtain ⟨error, failed⟩ := refused kind operation seconds rfl
          cases planned.symm.trans failed

/-- Actions leave the engine as their calls do. -/
theorem state_run (actions : List Action) (client : Client) (state : σ) :
    (run engine actions client state).2 = engine.after (calls actions client.draft) state := by
  induction actions generalizing client state with
  | nil => rfl
  | cons action rest ih =>
      calc (run engine (action :: rest) client state).2
          = engine.after (calls rest (action.step engine client state).1.draft)
              (action.step engine client state).2 := ih ..
        _ = engine.after (calls (action :: rest) client.draft) state := by
              rw [draft_step, state_step, calls, Engine.after_append]

end Action

theorem Client.state_perform_of_plan {σ : Type} (engine : Engine σ) {kind : Kind}
    {operation : Operation kind} {client : Client} {call : Call kind}
    (planned : operation.plan client.draft = .ok call) (seconds : Binary64) (state : σ) :
    (client.perform engine operation seconds state).2.2 = (engine.answer call state).2 := by
  simp only [perform, planned]

end DocumentSearch
