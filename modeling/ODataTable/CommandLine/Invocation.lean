import ODataTable.Calendar.Literal
import ODataTable.CommandLine.Option

/-! Commands as they are asked for on a command line.

Options for every command may stand before or after its name. Where one stands in both places,
the later one counts. What stands directly before the name is looked at last.
-/

set_option autoImplicit false

namespace ODataTable.CommandLine

structure Globals where
  config : Option String := none
  url : Option String := none
  logFile : Option String := none
  deriving DecidableEq, Repr

inductive OutputFormat where
  | table
  | json
  deriving DecidableEq, Repr

inductive Command where
  | health (asJson : Bool)
  | query (files : List String) (start stop : Option Instant) (format : OutputFormat)
  | resource (path : String) (pretty : Bool)
  deriving DecidableEq, Repr

structure Invocation where
  globals : Globals
  command : Command
  deriving DecidableEq, Repr

def isPath (text : String) : Bool := !text.isEmpty

def isInstant (text : String) : Bool := (TimeLiteral.zoned? text.toList).isSome

def formatNames : List (String × OutputFormat) := [("json", .json), ("table", .table)]

def format? (text : String) : Option OutputFormat :=
  (formatNames.find? (·.1 = text)).map (·.2)

def globalShapes : List OptionShape :=
  [{ name := "config", arity := .one, accepts := isPath }, { name := "url", arity := .one },
    { name := "log-file", arity := .one, accepts := isPath }]

def healthShapes : List OptionShape :=
  [{ name := "json", arity := .none }]

def queryShapes : List OptionShape :=
  [{ name := "file", short := some 'f', arity := .many, accepts := isPath },
    { name := "from", arity := .one, accepts := isInstant },
    { name := "to", arity := .one, accepts := isInstant },
    { name := "format", arity := .one, accepts := fun text => (format? text).isSome }]

def resourceShapes : List OptionShape :=
  [{ name := "pretty", short := some 'p', arity := .none }]

/-- The global options, those after the name of the command first. -/
def globalsOf (before after : Arguments) : Globals :=
  let value? := fun (name : String) => after.value? name <|> before.value? name
  { config := value? "config", url := value? "url", logFile := value? "log-file" }

def readHealth (texts : List String) : Except Refusal (Arguments × Command) := do
  let arguments ← Arguments.parse (globalShapes ++ healthShapes) 0 texts
  .ok (arguments, .health (arguments.isSet "json"))

def readQuery (texts : List String) : Except Refusal (Arguments × Command) := do
  let arguments ← Arguments.parse (globalShapes ++ queryShapes) 0 texts
  let instant? := fun (name : String) =>
    (arguments.value? name).bind fun text => TimeLiteral.zoned? text.toList
  let files := arguments.values "file"
  if files.isEmpty then .error (.missing "--file")
  else
    .ok (arguments, .query files (instant? "from") (instant? "to")
      (((arguments.value? "format").bind format?).getD .table))

def readResource (texts : List String) : Except Refusal (Arguments × Command) := do
  let arguments ← Arguments.parse (globalShapes ++ resourceShapes) 1 texts
  match arguments.words with
  | [] => .error (.missing "a resource path")
  | path :: _ => .ok (arguments, .resource path (arguments.isSet "pretty"))

def commandNames : List String := ["health", "query", "resource", "help"]

def readCommand (name : String) (texts : List String) :
    Except Refusal (Arguments × Command) :=
  match name with
  | "health" => readHealth texts
  | "query" => readQuery texts
  | "resource" => readResource texts
  | "help" =>
    match texts with
    | [] => .error .help
    | [word] =>
      if commandNames.contains word then .error .help else .error (.unknownSubcommand word)
    | _ :: word :: _ => .error (.unknownSubcommand word)
  | name => .error (.unknownSubcommand name)

def Invocation.parse (texts : List String) : Except Refusal Invocation := do
  let (before, rest) ← Arguments.parseHead globalShapes texts
  match rest with
  | [] => .error .missingSubcommand
  | name :: texts => do
    let (after, command) ← readCommand name texts
    .ok { globals := globalsOf (← before.settle) after, command }

def usage : String :=
  "Usage: odata-datasource [OPTIONS] <COMMAND>\n\n" ++
  "Commands:\n" ++
  "  health    Check that the service root answers\n" ++
  "  query     Run one or more query payloads against the service\n" ++
  "  resource  Call a datasource resource such as `metadata`\n" ++
  "  help      Print this message or the help of the given subcommand(s)\n\n" ++
  "Options:\n" ++
  "      --config <CONFIG>      Path to the TOML config file\n" ++
  "      --url <URL>            Service root URL, overrides the config file and ODATA_URL\n" ++
  "      --log-file <LOG_FILE>  Write logs to this file instead of stderr\n" ++
  "  -h, --help                 Print help\n"

end ODataTable.CommandLine
