import DocumentSearch.Engine
import DocumentSearch.Http.Base
import DocumentSearch.Text.Base64

/-!
# Requests and responses

How a call to the engine is put as an HTTP request, and what an HTTP response says about it.

Tables, endpoints and identifiers are segments of the path.  A response with a status of success is
decoded as the answer of the call; a missing document is told by its address; any other status is
passed on with the text of the body.
-/

namespace DocumentSearch

namespace Http

/-- The method of a request. -/
inductive Method
  | get
  | put
  | post
  | delete
deriving DecidableEq, Repr

namespace Method

/-- The name of a method. -/
def name : Method → String
  | .get => "GET"
  | .put => "PUT"
  | .post => "POST"
  | .delete => "DELETE"

end Method

/-- The body of a request with the type of its content. -/
structure Content where
  type : String
  text : String
deriving DecidableEq, Repr

/-- A call as an HTTP message, apart from the node it goes to. -/
structure Message where
  method : Method
  /-- The names that are appended to the path of the node. -/
  names : List String
  content : Option Content
deriving DecidableEq, Repr

namespace Message

/-- The content of a JSON body. -/
def jsonContent (json : Json) : Option Content := some ⟨"application/json", json.toText⟩

/-- The message for a call. -/
def ofCall {kind : Kind} : Call kind → Message
  | .createTable table schema => ⟨.put, [table], jsonContent schema.createBody⟩
  | .updateMapping table schema => ⟨.put, [table, "_mapping"], jsonContent schema.mappingBody⟩
  | .getMapping [] => ⟨.get, ["_mapping"], none⟩
  | .getMapping tables => ⟨.get, [",".intercalate tables, "_mapping"], none⟩
  | .index ⟨table, ⟨some id, body⟩⟩ =>
      ⟨.put, [table, "_doc", id], jsonContent (Json.ofMap body)⟩
  | .index ⟨table, ⟨none, body⟩⟩ => ⟨.post, [table, "_doc"], jsonContent (Json.ofMap body)⟩
  | .bulk batch => ⟨.post, ["_bulk"], some ⟨"application/x-ndjson", batch.toLinesText⟩⟩
  | .get address => ⟨.get, [address.table, "_doc", address.id], none⟩
  | .update change =>
      ⟨.post, [change.address.table, "_update", change.address.id], jsonContent change.toJson⟩
  | .delete address => ⟨.delete, [address.table, "_doc", address.id], none⟩
  | .search request => ⟨.post, [request.table, "_search"], jsonContent request.body.toJson⟩

end Message

/-- A request to a node. -/
structure Request where
  /-- The position of the node among the configured ones. -/
  node : Nat
  method : Method
  /-- The path and the query. -/
  target : String
  authorization : Option String
  content : Option Content
deriving DecidableEq, Repr

/-- The header that carries credentials. -/
def basicAuthorization (credentials : Credentials) : String :=
  String.ofList ("Basic ".toList ++
    Base64.encode (Utf8.encode (credentials.username ++ ':' :: credentials.password.getD [])))

/-- A response of a node. -/
structure Response where
  status : UInt16
  body : List UInt8
deriving DecidableEq, Repr

namespace Response

/-- Whether the status is one of success. -/
def isSuccess (response : Response) : Bool :=
  decide (200 ≤ response.status ∧ response.status < 300)

/-- The text of a response, with a mark in place of every sequence that is no text. -/
def text (response : Response) : String := String.ofList (Utf8.decodeLossy response.body)

/-- What a response says about a call. -/
def interpret {kind : Kind} (call : Call kind) (response : Response) :
    Except Error kind.Answer :=
  let refused := Error.transport (some response.status) response.text
  if response.isSuccess then (kind.ofBytes response.body).mapError .serialization
  else
    match call.address? with
    | some address =>
        .error (if response.status = 404 then .notFound address.table address.id else refused)
    | none => .error refused

theorem isSuccess_iff {response : Response} :
    response.isSuccess = true ↔ 200 ≤ response.status ∧ response.status < 300 := by
  simp [isSuccess]

/-- A response is decoded, or it tells that a document is missing, or it is passed on. -/
theorem interpret_cases {kind : Kind} (call : Call kind) (response : Response) :
    (response.isSuccess = true ∧
        response.interpret call = (kind.ofBytes response.body).mapError .serialization) ∨
      (∃ address, response.isSuccess = false ∧ response.status = 404 ∧
        call.address? = some address ∧
        response.interpret call = .error (.notFound address.table address.id)) ∨
      (response.isSuccess = false ∧ (response.status = 404 → call.address? = none) ∧
        response.interpret call = .error (.transport (some response.status) response.text)) := by
  unfold interpret
  dsimp only
  cases succeeded : response.isSuccess with
  | true => exact .inl ⟨rfl, rfl⟩
  | false =>
      refine .inr ?_
      cases addressed : call.address? with
      | none => exact .inr ⟨rfl, fun _ => rfl, rfl⟩
      | some address =>
          by_cases missing : response.status = 404
          · exact .inl ⟨address, rfl, missing, rfl, by simp [missing]⟩
          · exact .inr ⟨rfl, fun found => absurd found missing, by simp [missing, text]⟩

end Response

end Http

end DocumentSearch
