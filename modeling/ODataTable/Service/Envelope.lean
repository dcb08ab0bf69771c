import ODataTable.Json.Reader
import ODataTable.Service.Response

/-! Envelopes around the entities of a response body.

Versions of the protocol wrap a collection in different members of an object. All of them are
tried, in an order that the version decides, and the first that holds a list is taken.
-/

set_option autoImplicit false

namespace ODataTable

abbrev EntityRecord := Dictionary Json.Value

inductive Envelope where
  | value
  | dataResults
  | dataList
  | results
  deriving DecidableEq, Repr

namespace Envelope

def entries? (body : Dictionary Json.Value) : Envelope → Option (List Json.Value)
  | .value => do (← body.find? "value").array?
  | .dataResults => do
    let data ← (← body.find? "d").object?
    (← data.find? "results").array?
  | .dataList => do (← body.find? "d").array?
  | .results => do (← body.find? "results").array?

def order : ProtocolVersion → List Envelope
  | .v2 => [.dataResults, .dataList, .value, .results]
  | _ => [.value, .dataResults, .dataList, .results]

/-- The records of a JSON value. Entries that are no objects are left out, and a value without
any envelope has no records. -/
def records (version : ProtocolVersion) (body : Json.Value) : List EntityRecord :=
  match body with
  | .object members =>
    (((order version).findSome? (entries? members)).getD []).filterMap Json.Value.object?
  | _ => []

def decode (version : ProtocolVersion) (body : List UInt8) :
    Except Json.Fault (List EntityRecord) :=
  (Json.parse body).map (records version)

end Envelope

end ODataTable
