import DocumentSearch.Proofs.Runs
import DocumentSearch.Proofs.Trails
import Mathlib.Data.Int.CardIntervalMod

/-!
# Nodes take turns

A cluster puts one request for each call to a node, whatever comes back, and goes around the
configured hosts in their order.  Calls are all that moves it on: what a client refuses, and what it
does with its query in between, leaves the turn where it is.  The turn is counted in 64 bits, so the
order holds up to that many calls.

But a request may be redirected, and then more requests are made for its call, out of turn and at
whatever place.  So calls and requests are the same number, and the hosts share them evenly, as long
as no node redirects.

Hosts that are not written in ASCII are told from each other only as far as `Domain.ofText?` reads
them, without normalisation, rules for the direction of text and Punycode.
-/

namespace DocumentSearch

theorem Base.nodes_of_ofConnection {connection : Connection} {nodes : List Base}
    (known : ofConnection connection = .ok nodes) :
    List.Forall₂ (fun host base => ofUrl (Connection.baseUrl host) = .ok base)
      connection.hosts nodes := by
  obtain ⟨_, _, parsed⟩ := bind_eq_ok.mp known
  refine (List.forall₂_map_left_iff.mp (mapM_eq_ok_iff.mp parsed)).imp fun host base same => ?_
  split at same
  · rename_i read
    cases same
    exact read
  · cases same

namespace Http

/-- The transport with the requests that it carried beside its state, oldest first. -/
def Transport.watched {τ : Type} (transport : Transport τ) : Transport (τ × List Request) where
  exchange request state :=
    let (outcome, after) := transport.exchange request state.1
    (outcome, after, state.2 ++ [request])

/-- How many of the requests go to the node at a position. -/
def requestsTo (node : Nat) (requests : List Request) : Nat :=
  requests.countP fun request => request.node = node

namespace Cluster

theorem nodes_of_ofConnection {connection : Connection} {cluster : Cluster}
    (accepted : ofConnection connection = .ok cluster) :
    List.Forall₂ (fun host base => Base.ofUrl (Connection.baseUrl host) = .ok base)
      connection.hosts cluster.nodes := by
  unfold ofConnection at accepted
  split at accepted
  · cases accepted
  · rename_i nodes known
    split at accepted
    · cases accepted
      exact Base.nodes_of_ofConnection known
    · cases accepted

/-- The node whose turn it is stands at the place of its host. -/
theorem exists_host {connection : Connection} {cluster : Cluster}
    (accepted : ofConnection connection = .ok cluster) (requests : Nat) :
    ∃ host, connection.hosts[requests % connection.hosts.length]? = some host ∧
      Base.ofUrl (Connection.baseUrl host) = .ok (cluster.node requests) := by
  obtain ⟨same, read⟩ := List.forall₂_iff_get.mp (nodes_of_ofConnection accepted)
  have onNodes : cluster.turn requests < cluster.nodes.length := cluster.turn_lt requests
  have onHosts : cluster.turn requests < connection.hosts.length := same ▸ onNodes
  refine ⟨connection.hosts[cluster.turn requests], ?_, read _ onHosts onNodes⟩
  rw [same]
  exact List.getElem?_eq_getElem onHosts

theorem node_turn (cluster : Cluster) (requests : Nat) :
    cluster.node (cluster.turn requests) = cluster.node requests := by
  simp only [node, turn, Nat.mod_mod]

/-! ## Requests for calls -/

/-- The requests for calls in order, after this many requests. -/
def requestsFor (cluster : Cluster) (calls : List LoggedCall) (before : UInt64) : List Request :=
  calls.mapIdx fun position logged =>
    cluster.request logged.call (before + UInt64.ofNat position).toNat

variable {τ : Type} (cluster : Cluster) (transport : Transport τ)

theorem length_requestsFor (calls : List LoggedCall) (before : UInt64) :
    (cluster.requestsFor calls before).length = calls.length :=
  List.length_mapIdx

theorem requestsFor_cons (logged : LoggedCall) (rest : List LoggedCall) (before : UInt64) :
    cluster.requestsFor (logged :: rest) before =
      cluster.request logged.call before.toNat :: cluster.requestsFor rest (before + 1) := by
  simp [requestsFor, add_assoc, add_comm]

theorem after_call {kind : Kind} (call : Call kind) (state : State (τ × List Request)) :
    let after := ((cluster.engine transport.watched).answer call state).2
    after.requests = state.requests + 1 ∧
      after.transport.2 = state.transport.2 ++ [cluster.request call state.requests.toNat] :=
  ⟨rfl, rfl⟩

/-- A call moves the turn on by one, and its request leaves a trail. -/
theorem trail_after_call (network : Network τ) {kind : Kind} (call : Call kind)
    (state : State (τ × List Exchange)) :
    let after := ((cluster.engine (cluster.onNetwork network.watched)).answer call state).2
    after.requests = state.requests + 1 ∧
      ∃ trail, network.redirects.IsTrail redirectLimit
          (cluster.hop (cluster.request call state.requests.toNat)) trail ∧
        after.transport.2 = state.transport.2 ++ trail := by
  obtain ⟨trail, isTrail, followed⟩ := follow_watched network redirectLimit
    (cluster.hop (cluster.request call state.requests.toNat)) state.transport.1 state.transport.2
  refine ⟨rfl, trail, isTrail, ?_⟩
  exact congrArg (fun ended => ended.2.2) followed

theorem trails_after (network : Network τ) (calls : List LoggedCall)
    (state : State (τ × List Exchange)) :
    ∃ trails, List.Forall₂ (network.redirects.IsTrail redirectLimit)
        ((cluster.requestsFor calls state.requests).map cluster.hop) trails ∧
      ((cluster.engine (cluster.onNetwork network.watched)).after calls state).transport.2 =
        state.transport.2 ++ trails.flatten := by
  induction calls generalizing state with
  | nil => exact ⟨[], .nil, by simp [Engine.after]⟩
  | cons logged rest ih =>
      obtain ⟨moved, trail, isTrail, carried⟩ := cluster.trail_after_call network logged.call state
      -- The cursor that the induction hypothesis starts from has moved on by one.
      obtain ⟨trails, areTrails, log⟩ :=
        ih ((cluster.engine (cluster.onNetwork network.watched)).answer logged.call state).2
      refine ⟨trail :: trails, ?_, ?_⟩
      · rw [requestsFor_cons, List.map_cons]
        exact .cons isTrail (moved ▸ areTrails)
      · refine log.trans ?_
        rw [carried, List.append_assoc, List.flatten_cons]

theorem getElem?_requestsFor {calls : List LoggedCall} {position : Nat}
    (counted : position < 2 ^ 64) :
    (cluster.requestsFor calls 0)[position]? =
      calls[position]?.map fun logged => cluster.request logged.call position := by
  have same : (0 + UInt64.ofNat position).toNat = position := by
    rw [UInt64.zero_add, UInt64.toNat_ofNat', Nat.mod_eq_of_lt counted]
  rw [requestsFor, List.getElem?_mapIdx, same]

theorem map_node_requestsFor {calls : List LoggedCall} (few : calls.length ≤ 2 ^ 64) :
    (cluster.requestsFor calls 0).map Request.node =
      (List.range calls.length).map (· % cluster.nodes.length) := by
  refine List.ext_getElem? fun position => ?_
  by_cases early : position < calls.length
  · rw [List.getElem?_map, List.getElem?_map, cluster.getElem?_requestsFor (by omega)]
    simp [early, request, turn]
  · simp [requestsFor, early]

/-- As many as can be counted, requests are shared evenly among the nodes. -/
theorem requestsTo_requestsFor {calls : List LoggedCall} (few : calls.length ≤ 2 ^ 64) {node : Nat}
    (configured : node < cluster.nodes.length) :
    requestsTo node (cluster.requestsFor calls 0) =
      calls.length / cluster.nodes.length +
        if node < calls.length % cluster.nodes.length then 1 else 0 := by
  calc requestsTo node (cluster.requestsFor calls 0)
      = ((cluster.requestsFor calls 0).map Request.node).countP (· = node) := by
          rw [List.countP_map]
          rfl
    _ = Nat.count (· % cluster.nodes.length = node) calls.length := by
          rw [map_node_requestsFor cluster few, List.countP_map]
          rfl
    _ = Nat.count (· ≡ node [MOD cluster.nodes.length]) calls.length := by
          simp only [Nat.ModEq, Nat.mod_eq_of_lt configured]
    _ = _ := by
          rw [Nat.count_modEq_card _ (by omega), Nat.mod_eq_of_lt configured]

/-- Whatever a cluster of accepted hosts is answered, and whatever else is done in a run, each call of
the run first puts one request to the host whose turn it is, so that no two hosts differ by more than
one of these.  Then it makes up to ten more, one for each redirection, and what redirects is a reply
with one of five statuses and an address.  So no other requests are made exactly as long as no exchange
leads on.  What a client refuses leaves the cluster as it is, and so does everything that is no
operation.  Which hosts are accepted, and which place they name, is as `Domain.ofText?` reads them. -/
theorem requests_take_turns (network : Network τ) {connection : Connection}
    (accepted : ofConnection connection = .ok cluster) :
    let engine := cluster.engine (cluster.onNetwork network.watched)
    let hosts := connection.hosts
    (∀ (actions : List Action) (client : Client) (start : τ),
      let calls := Action.calls actions client.draft
      let firsts := cluster.requestsFor calls 0
      let log := (Action.run engine actions client ⟨0, start, []⟩).2.transport.2
      firsts.length = calls.length ∧
      (∀ (position : Nat) (logged : LoggedCall), position < 2 ^ 64 →
        calls[position]? = some logged →
        let request := cluster.request logged.call position
        firsts[position]? = some request ∧ request.node = position % hosts.length ∧
        ∃ host node, hosts[position % hosts.length]? = some host ∧
          Base.ofUrl (Connection.baseUrl host) = .ok node ∧
          (cluster.hop request).place = node.place) ∧
      (calls.length ≤ 2 ^ 64 → ∀ left < hosts.length, ∀ right < hosts.length,
        requestsTo left firsts ≤ requestsTo right firsts + 1) ∧
      (∃ trails, log = trails.flatten ∧ List.Forall₂ (fun request trail =>
        network.redirects.IsTrail redirectLimit (cluster.hop request) trail ∧
          trail.length ≤ redirectLimit + 1 ∧
          (trail.length = 1 ↔
            ∀ exchange ∈ trail, exchange.next? network.redirects = none)) firsts trails) ∧
      (log.length = calls.length ↔
        ∀ exchange ∈ log, exchange.next? network.redirects = none) ∧
      (log.length = calls.length → log.map Exchange.hop = firsts.map cluster.hop)) ∧
    (∀ (exchange : Exchange) (next : Hop), exchange.next? network.redirects = some next →
      ∃ reply, exchange.outcome = .ok reply ∧
        reply.response.status ∈ [301, 302, 303, 307, 308] ∧ reply.location ≠ none) ∧
    (∀ (action : Action) (client : Client) (state : State (τ × List Exchange)),
      (∀ kind operation seconds, action = .perform kind operation seconds →
        ∃ error, operation.plan client.draft = .error error) →
      (action.step engine client state).2 = state) ∧
    ∀ (kind : Kind) (operation : Operation kind) (call : Call kind) (seconds : Binary64)
      (client : Client) (state : State (τ × List Exchange)),
      operation.plan client.draft = .ok call →
      let after := (client.perform engine operation seconds state).2.2
      after.requests = state.requests + 1 ∧
        ∃ trail, network.redirects.IsTrail redirectLimit
            (cluster.hop (cluster.request call state.requests.toNat)) trail ∧
          after.transport.2 = state.transport.2 ++ trail := by
  have same : connection.hosts.length = cluster.nodes.length :=
    (nodes_of_ofConnection accepted).length_eq
  refine ⟨?_, fun _ _ => Exchange.exists_reply_of_next?, ?_, ?_⟩
  · intro actions client start
    have counted :
        ((cluster.requestsFor (Action.calls actions client.draft) 0).map cluster.hop).length =
          (Action.calls actions client.draft).length := by
      rw [List.length_map, length_requestsFor]
    obtain ⟨trails, areTrails, carried⟩ :=
      cluster.trails_after network (Action.calls actions client.draft) ⟨0, start, []⟩
    dsimp only
    rw [Action.state_run, carried, List.nil_append, same, ← counted]
    refine ⟨by rw [List.length_map], ?_, ?_, ?_, ?_, ?_⟩
    · intro position logged early made
      obtain ⟨host, configured, read⟩ := cluster.exists_host accepted position
      refine ⟨?_, rfl, host, cluster.node position, same ▸ configured, read, ?_⟩
      · rw [getElem?_requestsFor cluster early, made, Option.map_some]
      · exact congrArg Base.place (cluster.node_turn position)
    · intro few left onLeft right onRight
      rw [counted] at few
      rw [requestsTo_requestsFor cluster few onLeft, requestsTo_requestsFor cluster few onRight]
      split <;> omega
    · exact ⟨trails, rfl, (List.forall₂_map_left_iff.mp areTrails).imp
        fun _ _ isTrail => ⟨isTrail, isTrail.length_le, isTrail.length_eq_one_iff⟩⟩
    · exact Redirects.IsTrail.length_flatten_eq_iff areTrails
    · exact Redirects.IsTrail.map_hop_flatten areTrails
  · intro action client state refused
    rw [Action.state_step, Action.call?_eq_none_iff.mpr refused]
    rfl
  · intro kind operation call seconds client state planned
    dsimp only
    rw [Client.state_perform_of_plan _ planned]
    exact cluster.trail_after_call network call state

/-- A network of two nodes, the first of which sends requests for the document `7` of a table `t` on
to the second.  Nothing is answered well. -/
def movingNetwork : Network Unit where
  exchange hop state :=
    if hop.place.host = .ipv4 0x0A000001 ∧ hop.target = "/t/_doc/7" then
      (.ok ⟨⟨307, []⟩, some "http://10.0.0.2/t/_doc/7"⟩, state)
    else (.ok ⟨⟨503, []⟩, none⟩, state)
  redirects := .standard

/-- Each node is asked first every other time in a run in which operations are refused and the draft
is looked at and set in between.  Only the last call comes to the first node for document `7`, so
only that one makes another request. -/
theorem requests_take_turns_moving :
    let connection := Connection.toHosts ["10.0.0.1", "10.0.0.2"]
    let find := Action.perform .fetch (.find "7") (.ofNat 1)
    let before := [.set (.table "t"), .perform .hits .get (.ofNat 1), .preview,
      .set (.table "t"), .set (.page 0 5), .perform .fetch (.find "") (.ofNat 1),
      .perform .mappings (.tableInfo [""]) (.ofNat 1), .set (.table "t"), find, .set (.table "t")]
    ∃ cluster, ofConnection connection = .ok cluster ∧
      let engine := cluster.engine (cluster.onNetwork movingNetwork.watched)
      let firsts (actions : List Action) :=
        cluster.requestsFor (Action.calls actions Client.new.draft) 0
      let log (actions : List Action) := (Action.run engine actions .new ⟨0, (), []⟩).2.transport.2
      (log before).length = 2 ∧
      (log before).map Exchange.hop = (firsts before).map cluster.hop ∧
      (firsts (before ++ [find]))[2]? = some (cluster.request (.get ⟨"t", "7"⟩) 2) ∧
      (cluster.request (.get ⟨"t", "7"⟩) 2).node = 0 ∧
      requestsTo 0 (firsts (before ++ [find])) ≤ requestsTo 1 (firsts (before ++ [find])) + 1 ∧
      (log (before ++ [find])).length = 4 ∧
      ∃ exchange ∈ log (before ++ [find]), exchange.next? .standard ≠ none := by
  intro connection find before
  obtain ⟨cluster, accepted⟩ : ∃ cluster, ofConnection connection = .ok cluster :=
    exists_eq_ok_of_isOk (by decide +kernel)
  have evaluated : (ofConnection connection).toOption.map (fun cluster =>
      let engine := cluster.engine (cluster.onNetwork movingNetwork.watched)
      let log (actions : List Action) := (Action.run engine actions .new ⟨0, (), []⟩).2.transport.2
      ((log before).length, (log (before ++ [find])).length)) = some (2, 4) := by
    decide +kernel
  rw [accepted] at evaluated
  obtain ⟨two, four⟩ := Prod.mk.inj (Option.some.inj evaluated)
  obtain ⟨run, _⟩ := cluster.requests_take_turns movingNetwork accepted
  obtain ⟨_, _, _, _, _, inTurn⟩ := run before .new ()
  obtain ⟨_, turns, shared, _, single, _⟩ := run (before ++ [find]) .new ()
  obtain ⟨third, onFirst, _⟩ := turns 2 ⟨.fetch, .get ⟨"t", "7"⟩⟩ (by decide) rfl
  refine ⟨cluster, accepted, two, inTurn (two.trans (by decide)), third, onFirst.trans (by decide),
    shared (by decide) 0 (by decide) 1 (by decide), four, ?_⟩
  by_contra! ended
  exact absurd (four.symm.trans (single.mpr ended)) (by decide)

/-- Four calls make six requests, and twice as many at the second node as at the first. -/
theorem not_requests_take_turns :
    let first : Place := ⟨.http, .ipv4 0x0A000001, none⟩
    let second : Place := ⟨.http, .ipv4 0x0A000002, none⟩
    let find := Action.perform .fetch (.find "7") (.ofNat 1)
    let actions := [.set (.table "t"), find, .set (.table "t"), find, .set (.table "t"), find,
      .set (.table "t"), find]
    ∃ cluster, ofConnection (Connection.toHosts ["10.0.0.1", "10.0.0.2"]) = .ok cluster ∧
      cluster.nodes.map Base.place = [first, second] ∧
      let engine := cluster.engine (cluster.onNetwork movingNetwork.watched)
      let log := (Action.run engine actions .new ⟨0, (), []⟩).2.transport.2
      (Action.calls actions Client.new.draft).length = 4 ∧
      log.map (fun exchange => exchange.hop.place) =
        [first, second, second, first, second, second] := by
  intro first second find actions
  obtain ⟨cluster, accepted⟩ :
      ∃ cluster, ofConnection (Connection.toHosts ["10.0.0.1", "10.0.0.2"]) = .ok cluster :=
    exists_eq_ok_of_isOk (by decide +kernel)
  have evaluated : (ofConnection (Connection.toHosts ["10.0.0.1", "10.0.0.2"])).toOption.map
      (fun cluster =>
        let engine := cluster.engine (cluster.onNetwork movingNetwork.watched)
        let log := (Action.run engine actions .new ⟨0, (), []⟩).2.transport.2
        (cluster.nodes.map Base.place, log.map fun exchange => exchange.hop.place)) =
      some ([first, second], [first, second, second, first, second, second]) := by
    decide +kernel
  rw [accepted] at evaluated
  obtain ⟨nodes, places⟩ := Prod.mk.inj (Option.some.inj evaluated)
  exact ⟨cluster, accepted, nodes, by decide, places⟩

end Cluster

end Http

end DocumentSearch
