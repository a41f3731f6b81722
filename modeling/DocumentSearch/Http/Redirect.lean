import DocumentSearch.Http.Place
import DocumentSearch.Http.Request

/-!
# Redirections

A reply may refer a request to another address.  Such redirections are followed, ten of them at most
for one request, wherever they lead: nobody asks whose turn it is.  `follow` says how requests come
one after the other; how a single one is exchanged is left to its caller, and how the address of a
redirection is read, to `Redirects`.
-/

namespace DocumentSearch

namespace Http

/-- A request at a place. -/
structure Hop where
  place : Place
  method : Method
  /-- The path and the query. -/
  target : String
  authorization : Option String
  content : Option Content
deriving DecidableEq, Repr

/-- A response with the address that it refers to, if it names one. -/
structure Reply where
  response : Response
  location : Option String
deriving DecidableEq, Repr

/-- How redirections are read. -/
structure Redirects where
  /-- The request that a redirection with a status and an address leads to, or why it cannot be made.
  An address that is none leads nowhere. -/
  read : Hop → UInt16 → String → Except String (Option Hop)

/-- The statuses of redirections. -/
def redirectStatuses : List UInt16 := [301, 302, 303, 307, 308]

/-- How many redirections are followed for one request. -/
def redirectLimit : Nat := 10

/-- What a single request comes to: the response, or why there is none, or else another request.
Replies of other statuses and those without an address lead nowhere. -/
def Redirects.settle (redirects : Redirects) (hop : Hop) :
    Except String Reply → Except String Response ⊕ Hop
  | .error message => .inl (.error message)
  | .ok ⟨response, none⟩ => .inl (.ok response)
  | .ok ⟨response, some address⟩ =>
      if response.status ∈ redirectStatuses then
        match redirects.read hop response.status address with
        | .error message => .inl (.error message)
        | .ok none => .inl (.ok response)
        | .ok (some next) => .inr next
      else .inl (.ok response)

/-- The response to a request, or why there is none, when the given number of redirections is
followed. -/
def follow {m : Type → Type} [Monad m] (redirects : Redirects)
    (exchange : Hop → m (Except String Reply)) : Nat → Hop → m (Except String Response)
  | 0, hop => do
      match redirects.settle hop (← exchange hop) with
      | .inl response => return response
      | .inr _ => return .error "too many redirects"
  | left + 1, hop => do
      match redirects.settle hop (← exchange hop) with
      | .inl response => return response
      | .inr next => follow redirects exchange left next

/-! ## Addresses -/

/-- The name of the scheme that an address begins with, in lower case, and what stands behind its
colon. -/
def splitScheme? (address : List Char) : Option (List Char × List Char) :=
  let isPart (c : Char) := c.isAlphanum || c = '+' || c = '-' || c = '.'
  match address.takeWhile isPart, address.dropWhile isPart with
  | first :: others, ':' :: rest =>
      if first.isAlpha then some ((first :: others).map Char.toLower, rest) else none
  | _, _ => none

/-- The URL that an address means to a request: a whole one, or a part that replaces the end of the
URL of the request. -/
def Hop.url (hop : Hop) (address : List Char) : Except String (List Char) :=
  let site := hop.place.scheme.mark ++ hop.place.authority
  let path := hop.target.toList.takeWhile fun c => c ≠ '?'
  match splitScheme? address with
  | some (name, rest) =>
      if name = "http".toList ∨ name = "https".toList then .ok (name ++ ':' :: rest)
      else .error "URL scheme is not allowed"
  | none =>
      match address with
      | '/' :: '/' :: rest => .ok (hop.place.scheme.mark ++ rest)
      | '/' :: _ => .ok (site ++ address)
      | [] | '#' :: _ => .ok (site ++ hop.target.toList)
      | '?' :: _ => .ok (site ++ path ++ address)
      | _ => .ok (site ++ Text.dropEndWhile (fun c => c ≠ '/') path ++ address)

/-- Reads redirections as user agents do: a request asks again at the address, and takes its
credentials along while it stays at one host and port.  What is to be seen elsewhere is fetched there,
and so is what becomes of a `POST` that was moved. -/
def Redirects.standard : Redirects where
  read hop status address := do
    match Base.ofUrl (String.ofList (← hop.url address.toList)) with
    | .error _ => return none
    | .ok base =>
        let place := base.place
        let stays := place.host = hop.place.host ∧ place.portNumber = hop.place.portNumber
        let fetches := status = 303 ∨ (status = 301 ∨ status = 302) ∧ hop.method = .post
        return some {
          place
          method := if fetches then .get else hop.method
          target := String.ofList (Path.toChars base.path ++
            match base.query with
            | some query => '?' :: query
            | none => [])
          authorization := if stays then hop.authorization else none
          content := if fetches then none else hop.content }

end Http

end DocumentSearch
