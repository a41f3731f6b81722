import DocumentSearch.Http.Redirect

/-!
# Messages as bytes

A connection carries one request and one response and is closed.  A response says how its body is
framed: in chunks, by its length, or by the end of the connection.  Bytes that end too early hold no
response.
-/

namespace DocumentSearch

namespace Http

/-- The headers that describe a body. -/
def Content.headers (content : Content) : List (String × String) :=
  [("content-type", content.type), ("content-length", toString content.text.utf8ByteSize)]

namespace Hop

/-- The headers of a request. -/
def headers (hop : Hop) : List (String × String) :=
  [("host", String.ofList hop.place.authority), ("accept", "*/*"), ("connection", "close")] ++
    (hop.authorization.map fun value => ("authorization", value)).toList ++
    ((hop.content.map Content.headers).getD [])

/-- The bytes of a request. -/
def toBytes (hop : Hop) : List UInt8 :=
  let lines := (hop.method.name ++ " " ++ hop.target ++ " HTTP/1.1") ::
    hop.headers.map fun header => header.1 ++ ": " ++ header.2
  let head := String.join (lines.map fun line => line ++ "\r\n") ++ "\r\n"
  Utf8.encode (head ++ (hop.content.map Content.text).getD "").toList

end Hop

namespace Reply

/-- The lines of a head, and the bytes behind the empty line that ends it.  The line that is being
read is held back to front. -/
def splitHead (line : List UInt8) : List UInt8 → Option (List (List UInt8) × List UInt8)
  | [] => none
  | 13 :: 10 :: rest =>
      if line.isEmpty then some ([], rest)
      else (splitHead [] rest).map fun split => (line.reverse :: split.1, split.2)
  | byte :: rest => splitHead (byte :: line) rest

/-- The status in the first line of a head. -/
def statusOf? (line : List Char) : Option UInt16 :=
  let digits := ((line.dropWhile fun c => c ≠ ' ').drop 1).take 3
  if line.take 5 = "HTTP/".toList ∧ digits.length = 3 ∧ digits.all Char.isDigit then
    (Host.digits? 10 digits).map UInt16.ofNat
  else none

/-- The name of a header in lower case, and its value. -/
def headerOf (line : List Char) : String × List Char :=
  (String.ofList ((line.takeWhile fun c => c ≠ ':').map Char.toLower),
    Text.trimChars ((line.dropWhile fun c => c ≠ ':').drop 1))

/-- The bytes in front of the first line break, and those behind it. -/
def splitLine : List UInt8 → Option (List UInt8 × List UInt8)
  | [] => none
  | 13 :: 10 :: rest => some ([], rest)
  | byte :: rest => (splitLine rest).map fun split => (byte :: split.1, split.2)

/-- The size in the line in front of a chunk; extensions behind it say nothing. -/
def chunkSize? (line : List Char) : Option Nat :=
  match Text.trimChars (line.takeWhile fun c => c ≠ ';') with
  | [] => none
  | digits => Host.digits? 16 digits

/-- Joins the chunks of a body up to the empty one.  Every chunk takes more than one byte, so the
number of bytes bounds that of the chunks. -/
def joinChunks : Nat → List UInt8 → Option (List UInt8)
  | 0, _ => none
  | bound + 1, bytes => do
      let (line, rest) ← splitLine bytes
      let size ← chunkSize? (Utf8.decodeLossy line)
      if size = 0 then return []
      if rest.length < size + 2 then none
      let others ← joinChunks bound (rest.drop (size + 2))
      return rest.take size ++ others

/-- The body behind a head with the given headers. -/
def bodyOf? (headers : List (String × List Char)) (rest : List UInt8) : Option (List UInt8) :=
  match headers.lookup "transfer-encoding", headers.lookup "content-length" with
  | some _, _ => joinChunks rest.length rest
  | none, some length => do
      let length ← Host.digits? 10 length
      if rest.length < length then none
      return rest.take length
  | none, none => some rest

/-- The reply that all bytes of a connection hold. -/
def ofBytes? (bytes : List UInt8) : Option Reply := do
  let (lines, rest) ← splitHead [] bytes
  let first :: others := lines.map Utf8.decodeLossy | none
  let status ← statusOf? first
  let headers := others.map headerOf
  let location := (headers.lookup "location").map String.ofList
  if status = 204 ∨ status = 304 then return ⟨⟨status, []⟩, location⟩
  let body ← bodyOf? headers rest
  return ⟨⟨status, body⟩, location⟩

end Reply

end Http

end DocumentSearch
