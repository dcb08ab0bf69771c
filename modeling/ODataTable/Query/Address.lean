import ODataTable.Query.Filter
import ODataTable.Service.Settings
import ODataTable.Url.Form
import ODataTable.Url.Parser

/-! Addresses of the resources of a service.

The parameters of a query are sorted by name, so the filter comes before the selection.
Parameters that the address of the service has already are kept.
-/

set_option autoImplicit false

namespace ODataTable

structure InvalidAddress where
  address : String
  fault : UrlFault
  deriving DecidableEq, Repr

def InvalidAddress.message (invalid : InvalidAddress) : String :=
  s!"invalid url '{invalid.address}': {invalid.fault.message}"

namespace Address

def parse (address : String) : Except InvalidAddress Url :=
  match Url.parse address.toList with
  | .ok url => .ok url
  | .error fault => .error { address, fault }

def parts (text : List Char) : List (List Char) :=
  (splitWhere (· = '/') text).filter (!·.isEmpty)

def join (address segment : String) : Except InvalidAddress Url := do
  let url ← parse address
  let joined := parts url.path.write ++ parts segment.toList
  .ok (url.withPath ('/' :: List.intercalate ['/'] joined))

/-- The names to select in order, the time property last. -/
def selection (properties : List Property) (timeProperty : Option Property) : List Char :=
  let timeName := (timeProperty.map (·.name.toList)).getD []
  List.intercalate [',']
    (properties.map (·.name.toList) ++ if timeName.isEmpty then [] else [timeName])

/-- The parameters of a query: those of the service, then the filter and the selection unless
they are empty. -/
def parameters (url : Url) (filter select : List Char) : List (String × String) :=
  Form.parse (url.query.getD []) ++
    (if filter.isEmpty then [] else [("$filter", String.ofList filter)]) ++
    if select.isEmpty then [] else [("$select", String.ofList select)]

/-- Sort pairs by name; pairs of one name keep their order. -/
def sortByName (pairs : List (String × String)) : List (String × String) :=
  pairs.mergeSort fun left right => !(right.1 < left.1)

def encodeParameters (pairs : List (String × String)) (spaces : SpaceEncoding) : List Char :=
  let encoded := Form.write (sortByName pairs)
  match spaces with
  | .plus => Form.plusForSpaces encoded
  | .percent => encoded

def query (address entitySet : String) (properties : List Property)
    (timeProperty : Option Property) (filter : List Char) (spaces : SpaceEncoding) :
    Except InvalidAddress Url := do
  let url ← join address entitySet
  let pairs := parameters url filter (selection properties timeProperty)
  .ok (url.withQuery (if pairs.isEmpty then none else some (encodeParameters pairs spaces)))

def entities (address entitySet : String) (properties : List Property)
    (timeProperty : Option Property) (range : Option TimeRange) (conditions : List Condition)
    (spaces : SpaceEncoding) : Except InvalidAddress Url :=
  query address entitySet properties timeProperty (Filter.write timeProperty range conditions)
    spaces

end Address

end ODataTable
