import DocumentSearch.Client
import DocumentSearch.CommandLine.Arguments
import DocumentSearch.Http.Network

/-!
# Running commands

A command becomes a script: setters for the draft and one operation.  The program connects, follows
the script, and prints the answer in indented form, or the message of the first error.
-/

namespace DocumentSearch

namespace CommandLine

/-- Why a command failed. -/
inductive Failure
  | columnsNotJson
  | columnsNotObject
  | documentNotJson
  | failed (error : Error)
deriving DecidableEq, Repr

/-- The message shown for a failure. -/
def Failure.message : Failure → String
  | .columnsNotJson => "columns must be JSON"
  | .columnsNotObject => "columns must be a JSON object"
  | .documentNotJson => "document must be JSON"
  | .failed error => error.message

/-- What a client is asked to do for a command. -/
structure Script where
  kind : Kind
  setters : List Setter
  operation : Operation kind
deriving Repr

/-- The setters of a search: the table and the page, and then the conditions of each kind in their
order. -/
def SearchOptions.setters (options : SearchOptions) : List Setter :=
  .table options.table :: .page options.page options.size ::
    (options.must.map (fun pair => .must pair.1 pair.2) ++
      options.should.map (fun pair => .should pair.1 pair.2) ++
      options.filter.map (fun pair => .filter pair.1 pair.2))

/-- The script of a command. -/
def Command.script : Command → Except Failure Script
  | .createTable table columns =>
      match Json.ofText columns with
      | .error _ => .error .columnsNotJson
      | .ok json =>
          match json.asMap? with
          | none => .error .columnsNotObject
          | some properties =>
              .ok ⟨.acknowledgement, [], .createTable table (.ofProperties properties)⟩
  | .describe tables => .ok ⟨.mappings, [], .tableInfo tables⟩
  | .insert table document =>
      match Json.ofText document with
      | .error _ => .error .documentNotJson
      | .ok json =>
          match Document.ofJson json with
          | .error cause => .error (.failed (.invalidInput cause))
          | .ok fields => .ok ⟨.write, [.table table], .insert fields⟩
  | .get table id => .ok ⟨.fetch, [.table table], .find id⟩
  | .delete table id => .ok ⟨.write, [.table table], .delete id⟩
  | .search options => .ok ⟨.hits, options.setters, .get⟩

/-- Carries out setters in order, up to the first that is refused. -/
def setAll (client : Client) : List Setter → Except InvalidInput Client
  | [] => .ok client
  | setter :: rest =>
      match client.set setter with
      | .ok client => setAll client rest
      | .error cause => .error cause

/-- Carries out a script with a new client. -/
def Script.run {σ : Type} (script : Script) (engine : Engine σ) (state : σ) :
    Except Error Json × σ :=
  match setAll .new script.setters with
  | .error cause => (.error (.invalidInput cause), state)
  | .ok client =>
      let (result, _, state) :=
        client.perform engine script.operation (Binary64.zero false) state
      (result.map script.kind.encode, state)

/-- Carries out a command on an engine. -/
def Command.run {σ : Type} (command : Command) (engine : Engine σ) (state : σ) :
    Except Failure Json × σ :=
  match command.script with
  | .error failure => (.error failure, state)
  | .ok script =>
      let (result, state) := script.run engine state
      (result.mapError .failed, state)

/-- Carries out an invocation over a transport.  Nothing is done when the connection cannot be
used. -/
def Invocation.run {τ : Type} (invocation : Invocation) (transport : Http.Transport τ)
    (state : τ) : Except Failure Json × τ :=
  match Http.Cluster.ofConnection invocation.connection with
  | .error cause => (.error (.failed (.config cause)), state)
  | .ok cluster =>
      let (result, state) := invocation.command.run (cluster.engine transport) ⟨0, state⟩
      (result, state.transport)

/-- What the program leaves to its caller. -/
structure Output where
  exit : UInt32
  stdout : String
  stderr : String
deriving DecidableEq, Repr

/-- The output for a result. -/
def Output.ofResult : Except Failure Json → Output
  | .ok json => ⟨0, json.toIndentedText ++ "\n", ""⟩
  | .error failure => ⟨1, "", "Error: " ++ failure.message ++ "\n"⟩

/-- The output for arguments that ask for nothing. -/
def Output.ofUsage (environment : Environment) : Usage → Output
  | .help topic => ⟨0, Help.text environment topic, ""⟩
  | .invalid reason => ⟨2, "", "error: " ++ reason ++ "\n"⟩

/-- The whole program. -/
def execute {τ : Type} (environment : Environment) (arguments : List String)
    (transport : Http.Transport τ) (state : τ) : Output × τ :=
  match ofArguments environment arguments with
  | .error usage => (.ofUsage environment usage, state)
  | .ok invocation =>
      let (result, state) := invocation.run transport state
      (.ofResult result, state)

/-- What the program has to send before it can answer: a request, and the connection it belongs to. -/
structure Pending where
  hop : Http.Hop
  connection : Connection

/-- What the program has to send, if it comes that far.  A command puts one call to the engine at
most, and its request does not depend on how it ends. -/
def pending? (environment : Environment) (arguments : List String) : Option Pending :=
  match ofArguments environment arguments with
  | .error _ => none
  | .ok invocation =>
      let (_, requests) := invocation.run (.ending (.error "")) []
      match requests, Http.Cluster.ofConnection invocation.connection with
      | request :: _, .ok cluster => some ⟨cluster.hop request, invocation.connection⟩
      | _, _ => none

end CommandLine

end DocumentSearch
