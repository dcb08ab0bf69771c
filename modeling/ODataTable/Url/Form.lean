import ODataTable.Text.Split
import ODataTable.Url.Percent

/-! Names and values in the query of a URL. -/

set_option autoImplicit false

namespace ODataTable.Form

def decodePart (text : List Char) : List Char :=
  Utf8.decodeLossy (Percent.decode (text.map fun c => if c = '+' then ' ' else c))

def splitPair (text : List Char) : List Char × List Char :=
  let (name, value) := cutWhere (· = '=') text
  (name, value.getD [])

/-- The pairs of a query. Nothing between two ampersands is no pair. -/
def parse (query : List Char) : List (String × String) :=
  ((splitWhere (· = '&') query).filter (!·.isEmpty)).map fun text =>
    let (name, value) := splitPair text
    (String.ofList (decodePart name), String.ofList (decodePart value))

def encodePart (text : String) : List Char :=
  Percent.encode Percent.componentSet text.toList

def encodePair (pair : String × String) : List Char :=
  encodePart pair.1 ++ '=' :: encodePart pair.2

def write (pairs : List (String × String)) : List Char :=
  List.intercalate ['&'] (pairs.map encodePair)

def plusForSpaces : List Char → List Char
  | '%' :: '2' :: '0' :: rest => '+' :: plusForSpaces rest
  | c :: rest => c :: plusForSpaces rest
  | [] => []

end ODataTable.Form
