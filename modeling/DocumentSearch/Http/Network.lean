import DocumentSearch.Http.Engine
import DocumentSearch.Http.Redirect

/-!
# Clusters on networks

A network carries single requests.  Over a network, the request for a call is put to the node whose
turn it is and then goes where it is redirected.
-/

namespace DocumentSearch

namespace Http

/-- A network with states of type `τ`. -/
structure Network (τ : Type) where
  /-- What comes back for a single request, or why nothing does. -/
  exchange : Hop → StateM τ (Except String Reply)
  redirects : Redirects

namespace Cluster

/-- A request at the place of its node. -/
def hop (cluster : Cluster) (request : Request) : Hop where
  place := (cluster.node request.node).place
  method := request.method
  target := request.target
  authorization := request.authorization
  content := request.content

/-- The transport of a cluster over a network. -/
def onNetwork {τ : Type} (cluster : Cluster) (network : Network τ) : Transport τ where
  exchange request := follow network.redirects network.exchange redirectLimit (cluster.hop request)

end Cluster

end Http

end DocumentSearch
