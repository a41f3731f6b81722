import DocumentSearch.Error
import DocumentSearch.Text.Blank

/-!
# Connections

Where the engine is reached and with what credentials.  A host may be given with or without a
scheme; without one it is `http`.
-/

namespace DocumentSearch

/-- How to reach the engine. -/
structure Connection where
  /-- The addresses of the engine's nodes. -/
  hosts : List String
  username : Option String
  password : Option String
  /-- The time a request may take, in milliseconds. -/
  requestTimeout : UInt64
  /-- The time it may take to connect, in milliseconds. -/
  connectTimeout : UInt64
deriving DecidableEq, Repr

namespace Connection

/-- A connection to the given hosts without credentials. -/
def toHosts (hosts : List String) : Connection := ⟨hosts, none, none, 30000, 5000⟩

/-- A connection to a node on the same machine. -/
def standard : Connection := toHosts ["127.0.0.1:9200"]

instance : Inhabited Connection := ⟨standard⟩

/-- Sets both credentials. -/
def withCredentials (connection : Connection) (username password : String) : Connection :=
  { connection with username := some username, password := some password }

/-- The credentials, if both are given and neither is empty. -/
def credentials? (connection : Connection) : Option (String × String) :=
  match connection.username, connection.password with
  | some username, some password =>
      if username = "" ∨ password = "" then none else some (username, password)
  | _, _ => none

/-- Whether a host consists of white space. -/
def isBlankHost (host : String) : Bool := (Text.trimChars host.toList).isEmpty

/-- Whether the connection can be used: there are hosts, none is blank, and requests have time. -/
def validate (connection : Connection) : Except Misconfiguration Unit :=
  if connection.hosts.isEmpty then .error .noHosts
  else if connection.hosts.any isBlankHost then .error .blankHost
  else if connection.requestTimeout = 0 then .error .zeroTimeout
  else .ok ()

/-- The schemes a host may be given with. -/
def schemeMarks : List (List Char) := ["http://".toList, "https://".toList]

/-- A host without white space around it and without slashes at its end. -/
def trimHost (host : String) : List Char :=
  Text.dropEndWhile (fun c => c = '/') (Text.trimChars host.toList)

/-- The URL of a host: the trimmed host, behind `http://` unless it starts with a scheme. -/
def baseUrl (host : String) : String :=
  let trimmed := trimHost host
  if schemeMarks.any fun mark => mark.isPrefixOf trimmed then String.ofList trimmed
  else String.ofList ("http://".toList ++ trimmed)

/-- The URLs of the hosts, in order. -/
def baseUrls (connection : Connection) : List String := connection.hosts.map baseUrl

end Connection

end DocumentSearch
