import ODataTable.Service.Settings
import ODataTable.Text.Quoted
import ODataTable.Text.Utf8
import ODataTable.Toml.Document

/-! The configuration file, and the settings of the service that it leads to.

Every key has a default and keys that nobody knows are ignored. The address of the service may
also come from the command line or from the environment.
-/

set_option autoImplicit false

namespace ODataTable

inductive FileContent where
  | missing
  | unreadable
  | octets (content : List UInt8)
  deriving DecidableEq, Repr

structure Config where
  url : Option String := none
  timeoutSeconds : Nat := 30
  connectTimeoutSeconds : Nat := 10
  settings : Settings := {}
  deriving DecidableEq, Repr

namespace Config

inductive Fault where
  | notToml (fault : Toml.Fault)
  | notString (key : String)
  | notCount (key : String)
  deriving DecidableEq, Repr

def Fault.message : Fault → String
  | .notToml fault => fault.message
  | .notString key => s!"invalid type for key '{key}', expected a string"
  | .notCount key => s!"invalid type for key '{key}', expected a count of seconds"

def text? (key : String) (entries : Toml.Entries) : Except Fault (Option String) :=
  match entries.find? key with
  | none => .ok none
  | some (.string text) => .ok (some text)
  | some _ => .error (.notString key)

def count? (key : String) (entries : Toml.Entries) : Except Fault (Option Nat) :=
  match entries.find? key with
  | none => .ok none
  | some (.scalar (.integer (.ofNat value))) => .ok (some value)
  | some _ => .error (.notCount key)

def ofEntries (entries : Toml.Entries) : Except Fault Config := do
  let defaults : Config := {}
  let spaces ← text? "url_space_encoding" entries
  let version ← text? "odata_version" entries
  .ok
    { url := ← text? "url" entries
      timeoutSeconds := (← count? "timeout_secs" entries).getD defaults.timeoutSeconds
      connectTimeoutSeconds :=
        (← count? "connect_timeout_secs" entries).getD defaults.connectTimeoutSeconds
      settings :=
        { spaces := (spaces.map SpaceEncoding.ofString).getD defaults.settings.spaces
          version := (version.map ProtocolVersion.ofString).getD defaults.settings.version } }

def parse (document : List Char) : Except Fault Config :=
  match Toml.parse document with
  | .ok entries => ofEntries entries
  | .error fault => .error (.notToml fault)

inductive LoadFault where
  | unreadable
  | notText (fault : Utf8.Fault)
  | malformed (fault : Fault)
  deriving DecidableEq, Repr

namespace LoadFault

/-- What failed, without the path of the file. -/
def summary : LoadFault → String
  | .malformed _ => "Failed to parse config file"
  | _ => "Failed to read config file"

def message (fault : LoadFault) (path : String) : String :=
  s!"{fault.summary}: {String.ofList (Quoted.write path.toList)}"

def cause : LoadFault → String
  | .unreadable => "the file cannot be read"
  | .notText fault => fault.message
  | .malformed fault => fault.message

end LoadFault

/-- The configuration of a file. A file that does not exist stands for the defaults. -/
def load : FileContent → Except LoadFault Config
  | .missing => .ok {}
  | .unreadable => .error .unreadable
  | .octets content =>
    match Utf8.decode content with
    | .error fault => .error (.notText fault)
    | .ok text => (parse text).mapError .malformed

structure MissingUrl where
  deriving DecidableEq, Repr

def urlVariable : String := "ODATA_URL"

def MissingUrl.message (_ : MissingUrl) : String :=
  s!"No service url configured (set `url` in the config file, {urlVariable} or --url)"

/-- The settings of the service. Its address on the command line goes before the one in the
environment, and that before the one in the file. -/
def resolve (config : Config) (given environment : Option String) :
    Except MissingUrl Connection :=
  match given <|> environment <|> config.url with
  | none => .error {}
  | some url =>
    .ok
      { url
        timeoutSeconds := config.timeoutSeconds
        connectTimeoutSeconds := config.connectTimeoutSeconds
        settings := config.settings }

end Config

end ODataTable
