import ODataTable.Dictionary
import ODataTable.Service.Settings
import ODataTable.Text.LowerCase
import ODataTable.Text.Utf8

/-! Responses of a service, read in full. -/

set_option autoImplicit false

namespace ODataTable

structure Response where
  status : Nat
  /-- Header values by lower-case names. -/
  headers : Dictionary String := []
  body : List UInt8 := []
  deriving DecidableEq, Repr

namespace Response

def withHeader (response : Response) (name value : String) : Response :=
  { response with headers := response.headers.insert (lowerCase name) value }

def header? (response : Response) (name : String) : Option String :=
  response.headers.find? (lowerCase name)

def isOk (response : Response) : Bool :=
  response.status = 200

/-- The body as text, with U+FFFD in place of octets that are no UTF-8. -/
def text (response : Response) : String :=
  String.ofList (Utf8.decodeLossy response.body)

def headerBegins (response : Response) (name : String) (c : Char) : Bool :=
  ((response.header? name).getD "").toList.head? = some c

/-- The version that a response speaks. Headers count only where the settings leave the choice
to them. -/
def version (response : Response) (configured : ProtocolVersion) : ProtocolVersion :=
  if configured ≠ .auto then configured
  else if response.headerBegins "DataServiceVersion" '2' then .v2
  else if response.headerBegins "DataServiceVersion" '3' then .v3
  else if response.headerBegins "OData-Version" '4' then .v4
  else .auto

end Response

end ODataTable
