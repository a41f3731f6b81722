import DocumentSearch.Text.Split
import DocumentSearch.Text.Terminal

/-!
# The interface of the command line

The commands with their operands and options, and how all this is told to someone who asks for help.
An entry of the help has its name on the left and, in a second column, what there is to know about
it.  Help is written for terminals, and shown as plain text unless the environment insists on
styles.
-/

namespace DocumentSearch

namespace CommandLine

/-- The variables of the environment that the program looks at. -/
abbrev Environment := String → Option String

/-- An option that takes a value. -/
structure Flag where
  name : String
  /-- What its value is called. -/
  value : String
  about : String
  /-- The variable that speaks when the option is not given. -/
  variableName : Option String
  /-- The value when nothing is said. -/
  fallback : Option String
deriving DecidableEq, Repr

/-- The form of a command. -/
structure CommandForm where
  name : String
  about : String
  /-- What the operands are called. -/
  operands : List String
  /-- How many operands there may be, if not any number. -/
  operandLimit : Option Nat
  flags : List Flag
deriving DecidableEq, Repr

/-- The name of the program. -/
def programName : String := "docquery"

/-- What the program is for. -/
def programAbout : String := "Query and manage documents in an Elasticsearch-compatible engine"

/-- The flags in front of a command. -/
def connectionFlags : List Flag :=
  [⟨"hosts", "HOSTS", "Comma-separated list of engine hosts", some "DOCQUERY_HOSTS",
      some "127.0.0.1:9200"⟩,
   ⟨"username", "USERNAME", "Basic auth user", some "DOCQUERY_USERNAME", none⟩,
   ⟨"password", "PASSWORD", "Basic auth password", some "DOCQUERY_PASSWORD", none⟩,
   ⟨"timeout-ms", "TIMEOUT_MS", "Per-request timeout in milliseconds",
      some "DOCQUERY_TIMEOUT_MS", some "30000"⟩]

/-- The flags of a search. -/
def searchFlags : List Flag :=
  [⟨"where", "MUST", "Must-match condition, field=value (repeatable)", none, none⟩,
   ⟨"or", "SHOULD", "OR-joined condition, field=value (repeatable)", none, none⟩,
   ⟨"filter", "FILTER", "Exact filter, field=value (repeatable)", none, none⟩,
   ⟨"page", "PAGE", "", none, some "1"⟩,
   ⟨"size", "SIZE", "", none, some "50"⟩]

/-- The commands. -/
def commandForms : List CommandForm :=
  [⟨"create-table", "Create a table from a JSON object of column mappings",
      ["<TABLE>", "<COLUMNS>"], some 2, []⟩,
   ⟨"describe", "Show mappings of the given tables (all tables when none given)",
      ["[TABLES]..."], none, []⟩,
   ⟨"insert", "Insert a JSON document; an \"id\" key becomes the document id",
      ["<TABLE>", "<DOCUMENT>"], some 2, []⟩,
   ⟨"get", "Fetch a document by id", ["<TABLE>", "<ID>"], some 2, []⟩,
   ⟨"delete", "Delete a document by id", ["<TABLE>", "<ID>"], some 2, []⟩,
   ⟨"search", "Search a table", ["<TABLE>"], some 1, searchFlags⟩]

/-- The form of the command with the given name. -/
def commandForm? (name : String) : Option CommandForm :=
  commandForms.find? fun form => form.name = name

/-- The variables of the environment that are looked at: those that stand for flags, and those about
styles. -/
def variableNames : List String :=
  connectionFlags.filterMap Flag.variableName ++ ["CLICOLOR_FORCE", "NO_COLOR"]

/-- What there is to ask about. -/
inductive HelpTopic
  | program
  | command (form : CommandForm)
  /-- The command that gives help. -/
  | help
deriving DecidableEq, Repr

namespace HelpTopic

/-- The names of the flags that may be given. -/
def flagNames : HelpTopic → List String
  | .program => connectionFlags.map Flag.name
  | .command form => form.flags.map Flag.name
  | .help => []

end HelpTopic

namespace Help

/-- A part of the name of an entry. -/
inductive Part
  /-- What is typed as it stands. -/
  | literal (text : String)
  | other (text : String)

namespace Part

/-- The room that a part takes. -/
def width : Part → Nat
  | literal text | other text => text.length

/-- A part, for a terminal. -/
def styled : Part → String
  | literal text => Terminal.bold text
  | other text => text

end Part

/-- An entry of the help: its name, and what is said about it. -/
structure Row where
  name : List Part
  about : String

/-- The room that the name of an entry takes. -/
def Row.width (row : Row) : Nat := row.name.foldl (fun width part => width + part.width) 0

/-- The entry of a flag: the value is what the environment says at the moment. -/
def flagRow (environment : Environment) (flag : Flag) : Row :=
  let variableText := flag.variableName.map fun name =>
    "[env: " ++ name ++ "=" ++ (environment name).getD "" ++ "]"
  let fallbackText := flag.fallback.map fun text => "[default: " ++ text ++ "]"
  let about := if flag.about = "" then [] else [flag.about]
  ⟨[.other "      ", .literal ("--" ++ flag.name), .other (" <" ++ flag.value ++ ">")],
    " ".intercalate (about ++ variableText.toList ++ fallbackText.toList)⟩

/-- The entry of the flag that asks for help. -/
def helpRow : Row := ⟨[.other "  ", .literal "-h", .other ", ", .literal "--help"], "Print help"⟩

/-- What the command that gives help is for. -/
def helpAbout : String := "Print this message or the help of the given subcommand(s)"

/-- The entry of a command. -/
def commandRow (name about : String) : Row := ⟨[.other "  ", .literal name], about⟩

/-- The entry of an operand. -/
def operandRow (name about : String) : Row := ⟨[.other "  ", .other name], about⟩

/-- So many blanks. -/
def blanks (width : Nat) : String := String.ofList (List.replicate width ' ')

/-- A text whose lines all begin at the same width, when the first one does. -/
def indented (width : Nat) (text : String) : String :=
  ("\n" ++ blanks width).intercalate ((Text.split '\n' text.toList).map String.ofList)

/-- Entries below each other, the second column two blanks behind the longest name. -/
def table (title : String) (rows : List Row) : String :=
  let width := rows.foldl (fun width row => max width row.width) 0 + 2
  "\n" ++ Terminal.heading (title ++ ":") ++ "\n" ++ String.join (rows.map fun row =>
    String.join (row.name.map Part.styled) ++ blanks (width - row.width) ++
      indented width row.about ++ "\n")

/-- What is said first: what a command is for, and how it is called. -/
def opening (about : String) (names arguments : List String) : String :=
  about ++ "\n\n" ++ Terminal.heading "Usage:" ++ " " ++
    " ".intercalate (Terminal.bold (" ".intercalate (programName :: names)) :: arguments) ++ "\n"

/-- The text on a topic, for a terminal. -/
def styled (environment : Environment) : HelpTopic → String
  | .program =>
      opening programAbout [] ["[OPTIONS]", "<COMMAND>"] ++
      table "Commands" ((commandForms.map fun form => commandRow form.name form.about) ++
        [commandRow "help" helpAbout]) ++
      table "Options" (connectionFlags.map (flagRow environment) ++ [helpRow])
  | .command form =>
      opening form.about [form.name]
        ((if form.flags.isEmpty then [] else ["[OPTIONS]"]) ++ form.operands) ++
      table "Arguments" (form.operands.map fun operand => operandRow operand "") ++
      table "Options" (form.flags.map (flagRow environment) ++ [helpRow])
  | .help =>
      opening helpAbout ["help"] ["[COMMAND]..."] ++
      table "Arguments" [operandRow "[COMMAND]..." "Print help for the subcommand(s)"]

/-- Whether a variable of the environment says something. -/
def isSet (environment : Environment) (name : String) : Bool :=
  (environment name).any fun value => !value.isEmpty

/-- Whether styles are asked for even where there is no terminal. -/
def forcesStyles (environment : Environment) : Bool :=
  isSet environment "CLICOLOR_FORCE" && !isSet environment "NO_COLOR"

/-- The text on a topic. -/
def text (environment : Environment) (topic : HelpTopic) : String :=
  if forcesStyles environment then styled environment topic
  else Terminal.plain (styled environment topic)

end Help

end CommandLine

end DocumentSearch
