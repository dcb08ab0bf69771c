import ODataTable.Edm.Schema
import ODataTable.Json.Fault
import ODataTable.Query.Address

/-! What can go wrong between a question to a service and its answer. -/

set_option autoImplicit false

namespace ODataTable

inductive TransportFault where
  | timeout (reason : String)
  | failure (reason : String)
  deriving DecidableEq, Repr

inductive ServiceFault where
  | invalidQuery (fault : Json.Fault)
  | invalidAddress (invalid : InvalidAddress)
  | transport (fault : TransportFault)
  /-- Entities were asked for, and the answer has another status than 200. -/
  | refused (status : Nat) (body : String)
  | metadataRefused (status : Nat)
  | undecodable (fault : Json.Fault)
  | metadata (fault : Edm.MetadataFault)
  deriving DecidableEq, Repr

namespace ServiceFault

def message : ServiceFault → String
  | .invalidQuery fault => s!"error unmarshalling query json: {fault.message}"
  | .invalidAddress invalid => invalid.message
  | .transport (.timeout reason) => s!"request timed out: {reason}"
  | .transport (.failure reason) => s!"request failed: {reason}"
  | .refused status body =>
    s!"get failed - code {status}" ++ if body.isEmpty then "" else s!": {body}"
  | .metadataRefused status => s!"get metadata failed with status code {status}"
  | .undecodable fault => s!"error decoding response body: {fault.message}"
  | .metadata fault => fault.message

def isTimeout : ServiceFault → Bool
  | .transport (.timeout _) => true
  | _ => false

end ServiceFault

end ODataTable
