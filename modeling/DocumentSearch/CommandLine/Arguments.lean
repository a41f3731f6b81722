import DocumentSearch.CommandLine.Interface
import DocumentSearch.Connection
import DocumentSearch.Json.Reader
import DocumentSearch.Text.Split

/-!
# Command-line arguments

What the arguments of the program ask for.  Options that concern the connection stand in front of
the command, those of the command behind it.  A value follows its option as the next argument or
behind an equals sign; an argument that starts with a dash is a value only behind an equals sign or,
as an operand, behind `--`.  What no argument says may be said by the environment.

Arguments are read from left to right, and a call for help is heard as soon as it is read, provided
that all in front of it makes sense.  A value behind an equals sign is looked at immediately.  A
value that stands alone is looked at when the next option is read, so the last one in front of a
command is looked at only behind the command.
-/

namespace DocumentSearch

namespace CommandLine

/-- A search as it is asked for. -/
structure SearchOptions where
  table : String
  must : List (String × Json)
  should : List (String × Json)
  filter : List (String × Json)
  page : UInt64
  size : UInt64
deriving DecidableEq, Repr

/-- What the program is to do. -/
inductive Command
  | createTable (table columns : String)
  | describe (tables : List String)
  | insert (table document : String)
  | get (table id : String)
  | delete (table id : String)
  | search (options : SearchOptions)
deriving DecidableEq, Repr

/-- A command and the connection to carry it out on. -/
structure Invocation where
  connection : Connection
  command : Command
deriving DecidableEq, Repr

/-- Why the arguments ask for nothing. -/
inductive Usage
  /-- They ask for help. -/
  | help (topic : HelpTopic)
  /-- They make no sense. -/
  | invalid (reason : String)
deriving DecidableEq, Repr

/-- An option with its value. -/
structure Given where
  name : String
  value : String
  /-- Whether the value stands behind an equals sign. -/
  attached : Bool
deriving DecidableEq, Repr

/-- Arguments that are sorted out: options, operands, and whether they ask for help. -/
structure Sorted where
  options : List Given
  operands : List String
  asksHelp : Bool
deriving DecidableEq, Repr

/-- Whether an argument can only be an option. -/
def isDashed (argument : String) : Bool :=
  match argument.toList with
  | '-' :: _ :: _ => true
  | _ => false

/-- Whether an argument asks for help in short.  Nothing is read behind the letter. -/
def isShortHelp (argument : String) : Bool :=
  match argument.toList with
  | '-' :: 'h' :: _ => true
  | _ => false

/-- The name of a long option, and its value if that stands behind an equals sign. -/
def longOption? (argument : String) : Option (String × Option String) :=
  match argument.toList with
  | '-' :: '-' :: text =>
      let name := text.takeWhile fun c => c ≠ '='
      some (String.ofList name, match text.dropWhile fun c => c ≠ '=' with
        | [] => none
        | _ :: value => some (String.ofList value))
  | _ => none

/-- What stands at the front of arguments. -/
inductive Front
  | help
  | option (given : Given)
  | operand
deriving DecidableEq, Repr

/-- What the first argument is, and the arguments behind it and its value. -/
def front (known : List String) (argument : String) (rest : List String) :
    Except Usage (Front × List String) :=
  match longOption? argument with
  | some (name, value?) =>
      if name = "help" ∧ value? = none then .ok (.help, rest)
      else if !known.contains name then .error (.invalid ("unexpected option " ++ argument))
      else
        match value?, rest with
        | some value, rest => .ok (.option ⟨name, value, true⟩, rest)
        | none, value :: rest =>
            if isDashed value then .error (.invalid ("missing value for " ++ argument))
            else .ok (.option ⟨name, value, false⟩, rest)
        | none, [] => .error (.invalid ("missing value for " ++ argument))
  | none =>
      if isShortHelp argument then .ok (.help, rest)
      else if isDashed argument then .error (.invalid ("unexpected option " ++ argument))
      else .ok (.operand, rest)

/-- Sorts out the arguments behind a command, with room for so many operands or any number; nothing
is read behind a call for help.  Every step takes an argument, so their number bounds the steps. -/
def sortOut (known : List String) : Option Nat → Nat → List String → Except Usage Sorted
  | _, 0, _ | _, _ + 1, [] => .ok ⟨[], [], false⟩
  | room, bound + 1, argument :: rest =>
      if argument = "--" then .ok ⟨[], rest, false⟩
      else do
        match ← front known argument rest with
        | (.help, _) => return ⟨[], [], true⟩
        | (.option given, rest) =>
            let sorted ← sortOut known room bound rest
            return { sorted with options := given :: sorted.options }
        | (.operand, rest) =>
            if room = some 0 then .error (.invalid ("unexpected argument " ++ argument))
            let sorted ← sortOut known (room.map Nat.pred) bound rest
            return { sorted with operands := argument :: sorted.operands }

/-- Sorts out the arguments up to the command: the options in front, and the command's name with
what stands behind it, unless they ask for help. -/
def splitCommand (known : List String) :
    Nat → List String → Except Usage (List Given × Option (String × List String))
  | 0, _ | _ + 1, [] => .error (.invalid "a command is missing")
  | bound + 1, argument :: rest =>
      if argument = "--" then .error (.invalid "a command is missing")
      else do
        match ← front known argument rest with
        | (.help, _) => return ([], none)
        | (.option given, rest) =>
            let (options, command) ← splitCommand known bound rest
            return (given :: options, command)
        | (.operand, rest) => return ([], some (argument, rest))

/-- The options in front of a command that are looked at before the command. -/
def settled : List Given → List Given
  | [] => []
  | [given] => if given.attached then [given] else []
  | given :: rest => given :: settled rest

/-- The values given for an option, in order. -/
def valuesOf (options : List Given) (name : String) : List String :=
  (options.filter fun given => given.name = name).map Given.value

/-- The value of an option that may be given once. -/
def valueOf? (options : List Given) (name : String) : Except Usage (Option String) :=
  match valuesOf options name with
  | [] => .ok none
  | [value] => .ok (some value)
  | _ => .error (.invalid ("option given twice: --" ++ name))

/-- The largest number that an option takes. -/
def largestNumber : Nat := UInt64.size - 1

/-- The value of decimal digits. -/
def natOfChars? (text : List Char) : Option Nat :=
  if text.isEmpty || !text.all Char.isDigit then none
  else some (text.foldl (fun value c => value * 10 + (c.toNat - '0'.toNat)) 0)

/-- An unsigned number of 64 bits in decimal; a plus sign may stand in front. -/
def numberOf (text : String) : Except Usage UInt64 :=
  let digits := match text.toList with
    | '+' :: digits => digits
    | digits => digits
  match natOfChars? digits with
  | some value =>
      if value ≤ largestNumber then .ok (UInt64.ofNat value)
      else .error (.invalid ("number too large: " ++ text))
  | none => .error (.invalid ("not a number: " ++ text))

/-- The value that a text stands for: itself as JSON, or as a string when it is not JSON. -/
def valueOfText (text : String) : Json :=
  match Json.ofText text with
  | .ok json => json
  | .error _ => .string text

/-- A field and its value, divided by the first equals sign. -/
def pairOf (text : String) : Except Usage (String × Json) :=
  let chars := text.toList
  match chars.dropWhile fun c => c ≠ '=' with
  | [] => .error (.invalid ("expected field=value, got '" ++ text ++ "'"))
  | _ :: value =>
      .ok (String.ofList (chars.takeWhile fun c => c ≠ '='), valueOfText (String.ofList value))

/-- The parts of a text between commas. -/
def commaParts (text : String) : List String := (Text.split ',' text.toList).map String.ofList

/-- The connection that options and environment ask for; options win. -/
def connectionOf (environment : Environment) (options : List Given) :
    Except Usage Connection := do
  let hosts := match valuesOf options "hosts", environment "DOCQUERY_HOSTS" with
    | [], some text => commaParts text
    | [], none => Connection.standard.hosts
    | given, _ => given.flatMap commaParts
  let username ← valueOf? options "username"
  let password ← valueOf? options "password"
  let timeout ← valueOf? options "timeout-ms"
  let username := username.or (environment "DOCQUERY_USERNAME")
  let password := password.or (environment "DOCQUERY_PASSWORD")
  let connection := Connection.toHosts hosts
  let requestTimeout ← match timeout.or (environment "DOCQUERY_TIMEOUT_MS") with
    | some text => numberOf text
    | none => .ok connection.requestTimeout
  let connection := { connection with requestTimeout }
  return match username, password with
    | some username, some password => connection.withCredentials username password
    | _, _ => connection

/-- The search that the options behind the command ask for. -/
def searchOf (options : List Given) (table : String) : Except Usage SearchOptions := do
  let must ← (valuesOf options "where").mapM pairOf
  let should ← (valuesOf options "or").mapM pairOf
  let filter ← (valuesOf options "filter").mapM pairOf
  let page ← valueOf? options "page"
  let size ← valueOf? options "size"
  let page ← match page with
    | some text => numberOf text
    | none => .ok 1
  let size ← match size with
    | some text => numberOf text
    | none => .ok 50
  return ⟨table, must, should, filter, page, size⟩

/-- The command with the given name and operands. -/
def commandOf (name : String) (sorted : Sorted) : Except Usage Command :=
  match name, sorted.operands with
  | "describe", tables => .ok (.describe tables)
  | "create-table", [table, columns] => .ok (.createTable table columns)
  | "insert", [table, document] => .ok (.insert table document)
  | "get", [table, id] => .ok (.get table id)
  | "delete", [table, id] => .ok (.delete table id)
  | "search", [table] => (searchOf sorted.options table).map .search
  | _, _ => .error (.invalid ("the operands do not fit " ++ name))

/-- What help on the names of commands is about. -/
def helpTopicOf : List String → Except Usage HelpTopic
  | [] => .ok .program
  | ["help"] => .ok .help
  | names =>
      match names.map commandForm? with
      | [some form] => .ok (.command form)
      | _ => .error (.invalid "unknown command")

/-- The command that a name and the arguments behind it ask for.  A call for help is heard when the
options in front of it make sense. -/
def commandOfArguments (name : String) (arguments : List String) : Except Usage Command := do
  if name = "help" then .error (.help (← helpTopicOf arguments))
  let some form := commandForm? name | .error (.invalid ("unknown command " ++ name))
  let topic := HelpTopic.command form
  let sorted ← sortOut topic.flagNames form.operandLimit arguments.length arguments
  if sorted.asksHelp then
    let _ ← searchOf sorted.options ""
    .error (.help topic)
  commandOf name sorted

/-- Fails unless options make sense, whatever the environment says. -/
def checkOptions (options : List Given) : Except Usage Unit := do
  let _ ← connectionOf (fun _ => none) options

/-- What the arguments and the environment ask for. -/
def ofArguments (environment : Environment) (arguments : List String) :
    Except Usage Invocation := do
  let (options, command) ←
    splitCommand HelpTopic.program.flagNames arguments.length arguments
  match command with
  | none => do
      checkOptions options
      .error (.help .program)
  | some (name, rest) =>
      checkOptions (settled options)
      let command ← commandOfArguments name rest
      let connection ← connectionOf environment options
      return ⟨connection, command⟩

end CommandLine

end DocumentSearch
