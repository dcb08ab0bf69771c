import ODataTable.Number.Radix
import ODataTable.Text.Split

/-! Sets of code points, given as ranges. -/

set_option autoImplicit false

namespace ODataTable

/-- Whether a character lies in one of some ranges, which hold both of their ends. -/
def inRanges (ranges : List (Nat × Nat)) (c : Char) : Bool :=
  ranges.any fun range => range.1 ≤ c.toNat && c.toNat ≤ range.2

/-- A range written as its two ends in hexadecimal digits, or as one code point. -/
def readRange (word : List Char) : Option (Nat × Nat) :=
  match (splitWhere (· = '-') word).mapM (Radix.read? 16) with
  | some [code] => some (code, code)
  | some [first, last] => some (first, last)
  | _ => none

def readRanges (text : String) : List (Nat × Nat) :=
  (splitWords text.toList).filterMap readRange

end ODataTable
