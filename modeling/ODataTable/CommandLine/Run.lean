import ODataTable.CommandLine.Invocation
import ODataTable.Config
import ODataTable.EnvironmentFile
import ODataTable.Source

/-! Running commands.

All contact with the outside goes through a host, so the commands can be run in any monad. What
a command prints is collected and handed over at its end.
-/

set_option autoImplicit false

namespace ODataTable.CommandLine

structure Host (m : Type → Type) where
  contentOf : String → m FileContent
  /-- Create an empty log file; false if that is not possible. -/
  createLog : String → m Bool
  lookUp : String → m (Option String)
  environmentFile : m FileContent
  configPath? : m (Option String)
  now : m Instant
  send : Connection → Request → m (Except TransportFault Response)

structure Outcome where
  output : List Char := []
  errors : List Char := []
  exitCode : Nat := 0
  deriving DecidableEq, Repr

inductive Failure where
  | failed (context : String) (cause : Option String)
  | unsettable (name : String)
  deriving DecidableEq, Repr

namespace Failure

def text : Failure → String
  | .failed context none => s!"Error: {context}\n"
  | .failed context (some cause) => s!"Error: {context}\n\nCaused by:\n    {cause}\n"
  | .unsettable name => s!"the variable {name} cannot hold NUL\n"

def exitCode : Failure → Nat
  | .failed .. => 1
  | .unsettable _ => 101

def outcome (failure : Failure) : Outcome :=
  { errors := failure.text.toList, exitCode := failure.exitCode }

end Failure

/-- The name of a file without its last extension. A name that only begins with a dot has no
extension, and a path without a name stands for itself. -/
def refIdOf (path : String) : String :=
  let components := (splitWhere (· = '/') path.toList).filter fun component =>
    !component.isEmpty && component ≠ ['.']
  match components.getLast? with
  | none => path
  | some name =>
    if name = ['.', '.'] then path
    else
      match name.reverse.dropWhile (· ≠ '.') with
      | [] | ['.'] => String.ofList name
      | _ :: stem => String.ofList stem.reverse

def defaultWindow : Nat := 6 * 3600

/-- The window of time between two ends, of which the second defaults to the present. -/
def windowOf (start stop : Option Instant) (now : Instant) : Except Failure TimeRange :=
  let stop := stop.getD now
  let start := start.getD (stop.back defaultWindow)
  if stop.before start then
    let first := String.ofList start.writeMessage
    let last := String.ofList stop.writeMessage
    .error (.failed s!"--from ({first}) is after --to ({last})" none)
  else .ok { start, stop }

def frameText (format : OutputFormat) (refId : String) (frame : Frame) : List Char :=
  match format with
  | .json => frame.tree.indented ++ ['\n']
  | .table =>
    "Query ".toList ++ refId.toList ++ '\n' :: (frame.table.toOption.getD []) ++ ['\n']

/-- The outcome of a batch: tables in the output, and a line among the errors for each query
that failed. -/
def batchOutcome (format : OutputFormat) : BatchOutcome → Outcome
  | [] => {}
  | (refId, outcome) :: rest =>
    let after := batchOutcome format rest
    match outcome with
    | .ok frame => { after with output := frameText format refId frame ++ after.output }
    | .error fault =>
      { after with
        errors := s!"Query failed {refId}: {fault.message}\n".toList ++ after.errors
        exitCode := 1 }

def healthOutcome (asJson : Bool) (health : Health) : Outcome :=
  let text :=
    if asJson then health.tree.indented
    else (if health.isWell then "OK " else "ERROR ").toList ++ health.message.toList
  { output := text ++ ['\n'], exitCode := if health.isWell then 0 else 1 }

def resourceOutcome (pretty : Bool) (resource : Resource) : Except Failure Outcome :=
  if resource.status ≠ 200 then
    .ok { output := s!"Status {resource.status}\n".toList }
  else if pretty then
    match Json.parse resource.body with
    | .ok value => .ok { output := value.tree.indented ++ ['\n'] }
    | .error fault =>
      .error (.failed "Resource body is not valid JSON" (some fault.message))
  else .ok { output := Utf8.decodeLossy resource.body ++ ['\n'] }

section
variable {m : Type → Type} [Monad m]

def createLog (host : Host m) : Option String → ExceptT Failure m Unit
  | none => pure ()
  | some path => do
    if !(← host.createLog path) then
      throw (.failed s!"Failed to open log file: {path}" none)

def loadConfig (host : Host m) (path : Option String) : ExceptT Failure m Config := do
  let found ←
    match path with
    | some path => pure (some path)
    | none => host.configPath?
  match found with
  | none => throw (.failed "Failed to get config directory" none)
  | some path =>
    match Config.load (← host.contentOf path) with
    | .ok config => pure config
    | .error fault => throw (.failed (fault.message path) (some fault.cause))

def environmentUrl (host : Host m) : ExceptT Failure m (Option String) := do
  let known ←
    match ← host.environmentFile with
    | .octets content =>
      ExceptT.adapt Failure.unsettable (EnvironmentFile.bindings host.lookUp content)
    | _ => pure []
  (EnvironmentFile.value? host.lookUp known Config.urlVariable : m (Option String))

def connectionOf (host : Host m) (config : Config) (url : Option String) :
    ExceptT Failure m Connection := do
  let environment ← environmentUrl host
  match config.resolve url environment with
  | .ok connection => pure connection
  | .error missing => throw (.failed missing.message none)

def readQueryFile (host : Host m) (range : TimeRange) (path : String) :
    ExceptT Failure m DataQuery := do
  match ← host.contentOf path with
  | .octets payload => pure { refId := refIdOf path, payload, range }
  | _ => throw (.failed s!"Failed to read query file: {path}" none)

def runQuery (host : Host m) (source : Source m) (files : List String)
    (start stop : Option Instant) (format : OutputFormat) : ExceptT Failure m Outcome := do
  let range ← ExceptT.mk (pure (windowOf start stop (← host.now)))
  let queries ← files.mapM (readQueryFile host range)
  pure (batchOutcome format (← source.runBatch queries))

def runResource (source : Source m) (path : String) (pretty : Bool) :
    ExceptT Failure m Outcome := do
  match ← source.callResource path with
  | .error fault =>
    throw (.failed s!"Resource call '{path}' failed" (some fault.message))
  | .ok resource => ExceptT.mk (pure (resourceOutcome pretty resource))

def runCommand (host : Host m) (source : Source m) : Command → ExceptT Failure m Outcome
  | .health asJson => do pure (healthOutcome asJson (← source.checkHealth))
  | .query files start stop format => runQuery host source files start stop format
  | .resource path pretty => runResource source path pretty

def runInvocation (host : Host m) (invocation : Invocation) : ExceptT Failure m Outcome := do
  createLog host invocation.globals.logFile
  let config ← loadConfig host invocation.globals.config
  let connection ← connectionOf host config invocation.globals.url
  let source := Source.ofClient (.ofConnection connection) (host.send connection)
  runCommand host source invocation.command

def run (host : Host m) (arguments : List String) : m Outcome := do
  match Invocation.parse arguments with
  | .error .help => pure { output := usage.toList }
  | .error refusal =>
    pure { errors := s!"error: {refusal.message}\n\n{usage}".toList, exitCode := 2 }
  | .ok invocation =>
    match ← (runInvocation host invocation).run with
    | .ok outcome => pure outcome
    | .error failure => pure failure.outcome

end

end ODataTable.CommandLine
