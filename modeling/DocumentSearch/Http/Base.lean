import DocumentSearch.Http.Host
import DocumentSearch.Http.Path
import DocumentSearch.Connection

/-!
# Base URLs

The URL of a node, taken apart: scheme, credentials, host, port, path and query.  A fragment is
never sent and is left out.
-/

namespace DocumentSearch

/-- How a node is spoken to. -/
inductive Scheme
  | http
  | https
deriving DecidableEq, Repr

namespace Scheme

/-- The text in front of the host. -/
def mark : Scheme → List Char
  | .http => "http://".toList
  | .https => "https://".toList

/-- The port that is used when none is given. -/
def defaultPort : Scheme → Nat
  | .http => 80
  | .https => 443

end Scheme

/-- A user name with or without a password. -/
structure Credentials where
  username : List Char
  password : Option (List Char)
deriving DecidableEq, Repr

/-- The URL of a node. -/
structure Base where
  scheme : Scheme
  /-- The credentials written in front of the host. -/
  credentials : Option Credentials
  host : Host
  /-- The port, unless it is the usual one. -/
  port : Option Nat
  path : Path
  query : Option (List Char)
deriving DecidableEq, Repr

namespace Base

/-- The characters that end the part of a URL in front of its path. -/
def endsAuthority (c : Char) : Bool := c = '/' || c = '\\' || c = '?' || c = '#'

/-- What stands in front of the last at-sign, if there is one, and what stands behind it. -/
def splitUserInfo (authority : List Char) : Option (List Char) × List Char :=
  let behind := (authority.reverse.takeWhile fun c => c ≠ '@').reverse
  if behind.length = authority.length then (none, authority)
  else (some (authority.take (authority.length - behind.length - 1)), behind)

/-- The host and what follows it: a colon inside brackets does not end the host. -/
def splitHost (inBrackets : Bool) : List Char → List Char × List Char
  | [] => ([], [])
  | c :: rest =>
      if c = ':' && !inBrackets then ([], c :: rest)
      else
        let inBrackets := if c = '[' then true else if c = ']' then false else inBrackets
        let (host, behind) := splitHost inBrackets rest
        (c :: host, behind)

/-- The largest port. -/
def largestPort : Nat := 65535

/-- The port behind a host; no digits mean none. -/
def port? : List Char → Except HostFault (Option Nat)
  | [] => .ok none
  | _ :: digits =>
      if digits.all Char.isDigit then
        match digits with
        | [] => .ok none
        | digits =>
            let port := digits.foldl (fun value c => value * 10 + (c.toNat - '0'.toNat)) 0
            if port ≤ largestPort then .ok (some port) else .error .invalidPort
      else .error .invalidPort

/-- The text of percent-encoded characters, if it is valid. -/
def decoded? (text : List Char) : Option (List Char) := Utf8.decode? (Percent.decode text)

/-- The credentials in front of a host: the first colon divides them.  Empty ones do not count. -/
def credentialsOf? (userInfo : List Char) : Option Credentials :=
  let name := userInfo.takeWhile fun c => c ≠ ':'
  let secret := (userInfo.dropWhile fun c => c ≠ ':').drop 1
  match decoded? name with
  | none => none
  | some username =>
      let password := if secret = [] then none else decoded? secret
      if username = [] ∧ password = none then none else some ⟨username, password⟩

/-- The segments of the path in front of the query: slashes and backslashes separate them. -/
def pathSegments (written : List Char) : List (List Char) :=
  let separated := written.map fun c => if c = '\\' then '/' else c
  Text.split '/' (match separated with
    | '/' :: rest => rest
    | rest => rest)

/-- Takes a URL behind its scheme and slashes apart. -/
def ofAuthority (scheme : Scheme) (text : List Char) : Except HostFault Base := do
  let authority := text.takeWhile fun c => !endsAuthority c
  let tail := text.dropWhile fun c => !endsAuthority c
  let (userInfo, address) := splitUserInfo authority
  let (hostText, portText) := splitHost false address
  let host ← Host.ofText hostText
  let port ← port? portText
  let unfragmented := tail.takeWhile fun c => c ≠ '#'
  let written := unfragmented.takeWhile fun c => c ≠ '?'
  let query := match unfragmented.dropWhile fun c => c ≠ '?' with
    | [] => none
    | _ :: query => some (Percent.encode Percent.reservedInQuery query)
  return {
    scheme
    credentials := userInfo.bind credentialsOf?
    host
    port := if port = some scheme.defaultPort then none else port
    path := Path.resolve (pathSegments written)
    query }

/-- Takes the URL of a node apart.  Tabs and line breaks count nowhere, control characters and
spaces not at the end, and any number of slashes may stand in front of the host. -/
def ofUrl (url : String) : Except HostFault Base :=
  let text := (Text.dropEndWhile (fun c => decide (c.toNat ≤ 0x20)) url.toList).filter fun c =>
    !Path.isDropped c
  let scheme := if Scheme.https.mark.isPrefixOf text then Scheme.https else Scheme.http
  ofAuthority scheme
    ((text.drop (scheme.mark.length - 2)).dropWhile fun c => c = '/' || c = '\\')

/-- The nodes of a connection, or why it cannot be used. -/
def ofConnection (connection : Connection) : Except Misconfiguration (List Base) := do
  connection.validate
  connection.baseUrls.mapM fun url =>
    match ofUrl url with
    | .ok base => .ok base
    | .error fault => .error (.invalidHost url fault)

/-- The URL on a node with names appended to its path: the part that is sent to the node. -/
def target (base : Base) (names : List String) : List Char :=
  Path.toChars (base.path.dropTrailing.append names) ++
    (match base.query with
      | some query => '?' :: query
      | none => [])

end Base

end DocumentSearch
