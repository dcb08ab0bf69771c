import ODataTable.Service.Fault
import ODataTable.Service.Response

/-! The calls that a service answers, and the requests that they become. -/

set_option autoImplicit false

namespace ODataTable

inductive Call where
  | root
  | metadata
  | entities (entitySet : String) (properties : List Property) (timeProperty : Option Property)
      (range : Option TimeRange) (conditions : List Condition)
  deriving DecidableEq, Repr

structure Request where
  url : String
  accept : String
  deriving DecidableEq, Repr

structure Client where
  baseUrl : String
  settings : Settings
  deriving DecidableEq, Repr

namespace Client

def ofConnection (connection : Connection) : Client :=
  { baseUrl := connection.baseUrl, settings := connection.settings }

def version (client : Client) : ProtocolVersion :=
  client.settings.version

def jsonContent : String := "application/json"

def xmlContent : String := "application/xml"

/-- The request of a call. The root is asked for as it is configured, without a look at whether
that is a URL. -/
def request (client : Client) : Call → Except InvalidAddress Request
  | .root => .ok { url := client.baseUrl, accept := jsonContent }
  | .metadata => do
    let url ← Address.join client.baseUrl "$metadata"
    .ok { url := String.ofList url.write, accept := xmlContent }
  | .entities entitySet properties timeProperty range conditions => do
    let url ← Address.entities client.baseUrl entitySet properties timeProperty range conditions
      client.settings.spaces
    .ok { url := String.ofList url.write, accept := jsonContent }

def ask {m : Type → Type} [Monad m] (client : Client)
    (send : Request → m (Except TransportFault Response)) (call : Call) :
    m (Except ServiceFault Response) :=
  match client.request call with
  | .error invalid => pure (.error (.invalidAddress invalid))
  | .ok request => (·.mapError .transport) <$> send request

end Client

end ODataTable
