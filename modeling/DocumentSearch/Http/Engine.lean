import DocumentSearch.Http.Request

/-!
# Engines behind HTTP

An engine that puts every call to one of its nodes, the nodes taking turns.  A call is put to one
node only; no answer makes it try another one.  How a request comes to its response is left to a
transport, which may have to make more requests for it when it is redirected.
-/

namespace DocumentSearch

namespace Http

/-- Brings requests to nodes: the response that there is in the end, or why there is none. -/
structure Transport (τ : Type) where
  exchange : Request → τ → Except String Response × τ

/-- The transport on which every request ends in the given way; it keeps the requests, newest
first. -/
def Transport.ending (outcome : Except String Response) : Transport (List Request) where
  exchange request requests := (outcome, request :: requests)

/-- The nodes of an engine and the credentials for them. -/
structure Cluster where
  nodes : List Base
  /-- There is a node to talk to. -/
  inhabited : nodes ≠ []
  credentials : Option (String × String)

/-- The state of an engine: how many requests were made, counted in 64 bits, and the state of the
transport. -/
structure State (τ : Type) where
  requests : UInt64
  transport : τ

namespace Cluster

/-- The engine's nodes, or why the connection cannot be used. -/
def ofConnection (connection : Connection) : Except Misconfiguration Cluster :=
  match Base.ofConnection connection with
  | .error cause => .error cause
  | .ok nodes =>
      if inhabited : nodes ≠ [] then .ok ⟨nodes, inhabited, connection.credentials?⟩
      else .error .noHosts

/-- The position of the node whose turn it is. -/
def turn (cluster : Cluster) (requests : Nat) : Nat := requests % cluster.nodes.length

theorem turn_lt (cluster : Cluster) (requests : Nat) :
    cluster.turn requests < cluster.nodes.length :=
  Nat.mod_lt _ (List.length_pos_iff.2 cluster.inhabited)

/-- The node whose turn it is. -/
def node (cluster : Cluster) (requests : Nat) : Base :=
  cluster.nodes.get ⟨cluster.turn requests, cluster.turn_lt requests⟩

/-- The credentials for a node: those of its URL win over the configured ones. -/
def credentialsFor (cluster : Cluster) (base : Base) : Option Credentials :=
  match base.credentials with
  | some credentials => some credentials
  | none => cluster.credentials.map fun pair => ⟨pair.1.toList, some pair.2.toList⟩

/-- The request for a call when the given number of requests were made before. -/
def request {kind : Kind} (cluster : Cluster) (call : Call kind) (requests : Nat) : Request :=
  let base := cluster.node requests
  let message := Message.ofCall call
  { node := cluster.turn requests
    method := message.method
    target := String.ofList (base.target message.names)
    authorization := (cluster.credentialsFor base).map basicAuthorization
    content := message.content }

/-- The answer to a call: its request is put to the node whose turn it is. -/
def answer {τ : Type} {kind : Kind} (cluster : Cluster) (transport : Transport τ)
    (call : Call kind) (state : State τ) : Except Error kind.Answer × State τ :=
  let request := cluster.request call state.requests.toNat
  let (outcome, after) := transport.exchange request state.transport
  (match outcome with
    | .ok response => response.interpret call
    | .error message => .error (.transport none message),
    ⟨state.requests + 1, after⟩)

/-- The cluster as an engine. -/
def engine {τ : Type} (cluster : Cluster) (transport : Transport τ) : Engine (State τ) where
  answer call state := cluster.answer transport call state

end Cluster

end Http

end DocumentSearch
