import DocumentSearch.Http.Network
import Mathlib.Data.List.Basic

/-!
# Trails of requests

A request on a network leaves a trail: it is exchanged at its place, and as long as it is redirected
it is exchanged again where the redirection leads.  Only a reply with one of five statuses and an
address redirects a request, so where there is none the trail is a single exchange.
-/

namespace DocumentSearch

namespace Http

/-- A single request, and how it ended. -/
structure Exchange where
  hop : Hop
  outcome : Except String Reply

/-- The request that an exchange leads to. -/
def Exchange.next? (exchange : Exchange) (redirects : Redirects) : Option Hop :=
  (redirects.settle exchange.hop exchange.outcome).getRight?

/-- Whether exchanges follow from a request when the given number of redirections is followed. -/
inductive Redirects.IsTrail (redirects : Redirects) : Nat → Hop → List Exchange → Prop
  | ended {left : Nat} {hop : Hop} {outcome : Except String Reply}
      (last : Exchange.next? ⟨hop, outcome⟩ redirects = none) :
      redirects.IsTrail left hop [⟨hop, outcome⟩]
  | exhausted {hop next : Hop} {outcome : Except String Reply}
      (redirected : Exchange.next? ⟨hop, outcome⟩ redirects = some next) :
      redirects.IsTrail 0 hop [⟨hop, outcome⟩]
  | redirected {left : Nat} {hop next : Hop} {outcome : Except String Reply} {rest : List Exchange}
      (redirected : Exchange.next? ⟨hop, outcome⟩ redirects = some next)
      (behind : redirects.IsTrail left next rest) :
      redirects.IsTrail (left + 1) hop (⟨hop, outcome⟩ :: rest)

/-- The network with the exchanges that it carried beside its state, oldest first. -/
def Network.watched {τ : Type} (network : Network τ) : Network (τ × List Exchange) where
  exchange hop state :=
    let (outcome, after) := network.exchange hop state.1
    (outcome, after, state.2 ++ [⟨hop, outcome⟩])
  redirects := network.redirects

section Outcomes

variable {redirects : Redirects} {hop : Hop} {outcome : Except String Reply}

theorem Exchange.next?_of_inl {response : Except String Response}
    (settled : redirects.settle hop outcome = .inl response) :
    Exchange.next? ⟨hop, outcome⟩ redirects = none := by
  rw [next?, settled]
  rfl

theorem Exchange.next?_of_inr {next : Hop} (settled : redirects.settle hop outcome = .inr next) :
    Exchange.next? ⟨hop, outcome⟩ redirects = some next := by
  rw [next?, settled]
  rfl

end Outcomes

/-- No failure redirects a request, and no other status. -/
theorem Exchange.exists_reply_of_next? {exchange : Exchange} {redirects : Redirects} {next : Hop}
    (redirected : exchange.next? redirects = some next) :
    ∃ reply, exchange.outcome = .ok reply ∧ reply.response.status ∈ redirectStatuses ∧
      reply.location ≠ none := by
  obtain ⟨hop, _ | ⟨response, _ | address⟩⟩ := exchange
  · cases redirected
  · cases redirected
  · refine ⟨_, rfl, ?_, Option.some_ne_none address⟩
    by_contra other
    simp only [next?, Redirects.settle, if_neg other] at redirected
    cases redirected

namespace Redirects.IsTrail

variable {redirects : Redirects} {left : Nat} {hop : Hop} {trail : List Exchange}

theorem exists_cons (isTrail : redirects.IsTrail left hop trail) :
    ∃ outcome rest, trail = ⟨hop, outcome⟩ :: rest := by
  cases isTrail with
  | ended | exhausted | redirected => exact ⟨_, _, rfl⟩

theorem length_le (isTrail : redirects.IsTrail left hop trail) : trail.length ≤ left + 1 := by
  induction isTrail with
  | ended => exact Nat.le_add_left 1 _
  | exhausted => exact Nat.le_refl 1
  | redirected _ _ ih => exact Nat.succ_le_succ ih

theorem length_eq_one_iff (isTrail : redirects.IsTrail (left + 1) hop trail) :
    trail.length = 1 ↔ ∀ exchange ∈ trail, exchange.next? redirects = none := by
  cases isTrail with
  | ended last => simpa using last
  | redirected redirected behind =>
      obtain ⟨_, _, rfl⟩ := behind.exists_cons
      simp [redirected]

theorem length_pos (isTrail : redirects.IsTrail left hop trail) : 0 < trail.length := by
  obtain ⟨_, _, rfl⟩ := isTrail.exists_cons
  exact Nat.succ_pos _

theorem map_hop_of_length_eq_one (isTrail : redirects.IsTrail left hop trail)
    (single : trail.length = 1) : trail.map Exchange.hop = [hop] := by
  obtain ⟨_, rest, rfl⟩ := isTrail.exists_cons
  simpa using single

/-! ### Trails of several requests -/

variable {hops : List Hop} {trails : List (List Exchange)}

theorem length_le_flatten (areTrails : List.Forall₂ (redirects.IsTrail left) hops trails) :
    hops.length ≤ trails.flatten.length := by
  induction areTrails with
  | nil => exact Nat.le_refl 0
  | cons isTrail _ ih =>
      have first := isTrail.length_pos
      rw [List.flatten_cons, List.length_append, List.length_cons]
      omega

/-- There are as many exchanges as requests when no exchange leads on. -/
theorem length_flatten_eq_iff
    (areTrails : List.Forall₂ (redirects.IsTrail (left + 1)) hops trails) :
    trails.flatten.length = hops.length ↔
      ∀ exchange ∈ trails.flatten, exchange.next? redirects = none := by
  induction areTrails with
  | nil => simp
  | @cons hop trail hops trails isTrail behind ih =>
      have first := isTrail.length_pos
      have others := length_le_flatten behind
      calc (trail :: trails).flatten.length = (hop :: hops).length
          ↔ trail.length = 1 ∧ trails.flatten.length = hops.length := by
            rw [List.flatten_cons, List.length_append, List.length_cons]
            omega
        _ ↔ _ := by
            rw [isTrail.length_eq_one_iff, ih, List.flatten_cons, List.forall_mem_append]

theorem map_hop_flatten (areTrails : List.Forall₂ (redirects.IsTrail left) hops trails)
    (single : trails.flatten.length = hops.length) : trails.flatten.map Exchange.hop = hops := by
  induction areTrails with
  | nil => rfl
  | cons isTrail behind ih =>
      have first := isTrail.length_pos
      have others := length_le_flatten behind
      rw [List.flatten_cons, List.length_append, List.length_cons] at single
      rw [List.flatten_cons, List.map_append, ih (by omega),
        isTrail.map_hop_of_length_eq_one (by omega), List.singleton_append]

end Redirects.IsTrail

/-! ## Watching -/

section Steps

variable {τ : Type} {redirects : Redirects} {exchange : Hop → StateM τ (Except String Reply)}
  {hop : Hop} {state after : τ} {outcome : Except String Reply}

theorem follow_of_inl {response : Except String Response}
    (exchanged : exchange hop state = (outcome, after))
    (settled : redirects.settle hop outcome = .inl response) (left : Nat) :
    follow redirects exchange left hop state = (response, after) := by
  cases left <;>
    simp only [follow, bind, StateT.bind, exchanged, settled] <;> rfl

theorem follow_zero_of_inr {next : Hop} (exchanged : exchange hop state = (outcome, after))
    (settled : redirects.settle hop outcome = .inr next) :
    follow redirects exchange 0 hop state = (.error "too many redirects", after) := by
  simp only [follow, bind, StateT.bind, exchanged, settled]
  rfl

theorem follow_succ_of_inr {next : Hop} (exchanged : exchange hop state = (outcome, after))
    (settled : redirects.settle hop outcome = .inr next) (left : Nat) :
    follow redirects exchange (left + 1) hop state =
      follow redirects exchange left next after := by
  simp only [follow, bind, StateT.bind, exchanged, settled]

end Steps

theorem exchange_watched {τ : Type} {network : Network τ} {hop : Hop} {state after : τ}
    {outcome : Except String Reply} (exchanged : network.exchange hop state = (outcome, after))
    (earlier : List Exchange) :
    network.watched.exchange hop (state, earlier) =
      (outcome, after, earlier ++ [⟨hop, outcome⟩]) := by
  simp only [Network.watched, exchanged]

/-- A request leaves a trail, and nobody notices that it is watched. -/
theorem follow_watched {τ : Type} (network : Network τ) (left : Nat) (hop : Hop) (state : τ)
    (earlier : List Exchange) :
    ∃ trail, network.redirects.IsTrail left hop trail ∧
      follow network.redirects network.watched.exchange left hop (state, earlier) =
        let (response, after) := follow network.redirects network.exchange left hop state
        (response, after, earlier ++ trail) := by
  induction left generalizing hop state earlier with
  | zero =>
      rcases exchanged : network.exchange hop state with ⟨outcome, after⟩
      have watched := exchange_watched exchanged earlier
      refine ⟨[⟨hop, outcome⟩], ?_⟩
      cases settled : network.redirects.settle hop outcome with
      | inl response =>
          rw [follow_of_inl watched settled, follow_of_inl exchanged settled]
          exact ⟨.ended (Exchange.next?_of_inl settled), rfl⟩
      | inr next =>
          rw [follow_zero_of_inr watched settled, follow_zero_of_inr exchanged settled]
          exact ⟨.exhausted (Exchange.next?_of_inr settled), rfl⟩
  | succ left ih =>
      rcases exchanged : network.exchange hop state with ⟨outcome, after⟩
      have watched := exchange_watched exchanged earlier
      cases settled : network.redirects.settle hop outcome with
      | inl response =>
          rw [follow_of_inl watched settled, follow_of_inl exchanged settled]
          exact ⟨_, .ended (Exchange.next?_of_inl settled), rfl⟩
      | inr next =>
          obtain ⟨rest, isTrail, followed⟩ := ih next after (earlier ++ [⟨hop, outcome⟩])
          rw [follow_succ_of_inr watched settled, follow_succ_of_inr exchanged settled, followed]
          refine ⟨⟨hop, outcome⟩ :: rest, .redirected (Exchange.next?_of_inr settled) isTrail, ?_⟩
          rw [List.append_assoc, List.singleton_append]

end Http

end DocumentSearch
