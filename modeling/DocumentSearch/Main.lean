import DocumentSearch.CommandLine.Run
import DocumentSearch.Http.Wire
import Std.Async.DNS
import Std.Async.TCP
import Std.Async.Timer

/-!
# The program

Reads the environment, sends the request that the arguments ask for, if there is one, follows where it
is redirected, and prints what comes of it.  What is sent and what is printed is decided by
`CommandLine.pending?`, `Http.follow` and `CommandLine.execute`.
-/

namespace DocumentSearch

namespace Network

open Std.Async Std.Net

/-- The address of an IPv4 host. -/
def ipv4 (address : Nat) : IPAddr :=
  let part (place : Nat) := UInt8.ofNat (address >>> (8 * place))
  .v4 (.ofParts (part 3) (part 2) (part 1) (part 0))

/-- The address of an IPv6 host. -/
def ipv6 (pieces : List Nat) : IPAddr :=
  let piece (place : Nat) := UInt16.ofNat (pieces.getD place 0)
  .v6 (.ofParts (piece 0) (piece 1) (piece 2) (piece 3) (piece 4) (piece 5) (piece 6) (piece 7))

/-- The addresses of a host; names are looked up. -/
def addresses : Host → Async (List IPAddr)
  | .ipv4 address => pure [ipv4 address]
  | .ipv6 pieces => pure [ipv6 pieces]
  | .domain name => do return (← DNS.getAddrInfo (String.ofList name) "").toList

/-- An address with a port. -/
def withPort (port : Nat) : IPAddr → SocketAddress
  | .v4 addr => .v4 ⟨addr, UInt16.ofNat port⟩
  | .v6 addr => .v6 ⟨addr, UInt16.ofNat port⟩

/-- Fails unless an action ends within the given milliseconds. -/
def within {α : Type} (milliseconds : UInt64) (action : Async α) : Async α := do
  let outcome ← Async.race (some <$> action) do
    sleep (.ofNat milliseconds.toNat)
    return none
  match outcome with
  | some value => return value
  | none => throw (.userError "operation timed out")

/-- Connects to the first address that takes the connection. -/
def connect (port : Nat) : List IPAddr → Async TCP.Socket.Client
  | [] => throw (.userError "no address")
  | address :: rest => do
      let socket ← TCP.Socket.Client.mk
      try
        socket.connect (withPort port address)
        return socket
      catch failure =>
        if rest.isEmpty then throw failure else connect port rest

/-- Everything that arrives until the connection is closed. -/
partial def receive (socket : TCP.Socket.Client) (arrived : ByteArray) : Async ByteArray := do
  match ← socket.recv? 65536 with
  | some bytes => receive socket (arrived ++ bytes)
  | none => return arrived

/-- Sends a request and waits for all of the reply. -/
def converse (connection : Connection) (hop : Http.Hop) : Async ByteArray := do
  let socket ← within connection.connectTimeout do
    connect hop.place.portNumber (← addresses hop.place.host)
  socket.send ⟨hop.toBytes.toArray⟩
  receive socket .empty

/-- The reply to a request, or why there is none. -/
def exchange (connection : Connection) (hop : Http.Hop) : Async (Except String Http.Reply) := do
  match hop.place.scheme with
  | .https => return .error "https is not supported"
  | .http =>
      match Http.Reply.ofBytes? (← converse connection hop).toList with
      | some reply => return .ok reply
      | none => return .error "no response"

/-- The response to a request wherever it is redirected, or why there is none. -/
def respond (pending : CommandLine.Pending) : IO (Except String Http.Response) := do
  let connection := pending.connection
  try
    (within connection.requestTimeout do
      Http.follow .standard (exchange connection) Http.redirectLimit pending.hop).block
  catch failure => return .error (toString failure)

end Network

namespace CommandLine

/-- The environment as far as the program looks at it. -/
def currentEnvironment : IO Environment := do
  let values ← variableNames.filterMapM fun name => do
    return (← IO.getEnv name).map fun value => (name, value)
  return fun name => values.lookup name

/-- Runs the program on its arguments. -/
def run (arguments : List String) : IO UInt32 := do
  let environment ← currentEnvironment
  let outcome ← match pending? environment arguments with
    | some pending => Network.respond pending
    | none => pure (.error "")
  let (output, _) := execute environment arguments (.ending outcome) []
  IO.print output.stdout
  IO.eprint output.stderr
  return output.exit

end CommandLine

end DocumentSearch

/-- The entry of the program. -/
def main (arguments : List String) : IO UInt32 := DocumentSearch.CommandLine.run arguments
