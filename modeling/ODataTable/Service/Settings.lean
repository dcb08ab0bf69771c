import ODataTable.Json.Record
import ODataTable.Json.Writer

/-! Settings of one service: the protocol version and the way spaces are written in a URL. -/

set_option autoImplicit false

namespace ODataTable

inductive SpaceEncoding where
  | plus
  | percent
  deriving DecidableEq, Repr

namespace SpaceEncoding

/-- Any text but `%20` asks for a plus. -/
def ofString (text : String) : SpaceEncoding :=
  if text = "%20" then .percent else .plus

def toString : SpaceEncoding → String
  | .plus => "+"
  | .percent => "%20"

end SpaceEncoding

inductive ProtocolVersion where
  /-- The headers of each response decide. -/
  | auto
  | v2
  | v3
  | v4
  deriving DecidableEq, Repr

namespace ProtocolVersion

/-- A version that nobody knows is handled as the latest. -/
def ofString (text : String) : ProtocolVersion :=
  if text = "" || text = "Auto" then .auto
  else if text = "V2" then .v2
  else if text = "V3" then .v3
  else .v4

def toString : ProtocolVersion → String
  | .auto => "Auto"
  | .v2 => "V2"
  | .v3 => "V3"
  | .v4 => "V4"

end ProtocolVersion

structure Settings where
  spaces : SpaceEncoding := .plus
  version : ProtocolVersion := .auto
  deriving DecidableEq, Repr

namespace Settings

structure Partial where
  spaces : Option SpaceEncoding := none
  version : Option ProtocolVersion := none

def shape : Json.RecordShape Partial Settings where
  title := "DatasourceSettings"
  fields :=
    [{ name := "urlSpaceEncoding"
       hasDefault := true
       isSet := fun known => known.spaces.isSome
       read := fun known input => do
         let (text, input) ← Json.readText input
         .ok ({ known with spaces := some (.ofString text) }, input) },
     { name := "odataVersion"
       hasDefault := true
       isSet := fun known => known.version.isSome
       read := fun known input => do
         let (text, input) ← Json.readText input
         .ok ({ known with version := some (.ofString text) }, input) }]
  start := {}
  build := fun known =>
    { spaces := known.spaces.getD .plus, version := known.version.getD .auto }

structure Fault where
  cause : Json.Fault
  deriving DecidableEq, Repr

def Fault.message (_ : Fault) : String :=
  "Failed to parse datasource settings"

/-- The settings that a text writes. A text of one octet or none stands for the defaults. -/
def parse (input : List UInt8) : Except Fault Settings :=
  match input with
  | [] | [_] => .ok {}
  | input => (shape.parse input).mapError Fault.mk

def tree (settings : Settings) : Json.Tree :=
  .object
    [("urlSpaceEncoding", .string settings.spaces.toString),
     ("odataVersion", .string settings.version.toString)]

end Settings

structure Connection where
  url : String
  timeoutSeconds : Nat
  connectTimeoutSeconds : Nat
  settings : Settings
  deriving DecidableEq, Repr

namespace Connection

def baseUrl (connection : Connection) : String :=
  String.ofList (connection.url.toList.reverse.dropWhile (· = '/')).reverse

end Connection

end ODataTable
