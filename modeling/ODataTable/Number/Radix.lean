/-! Whole numbers in a base of at most sixteen. Letters serve as digits in either case. -/

set_option autoImplicit false

namespace ODataTable.Radix

def digit? (c : Char) : Option Nat :=
  if c.isDigit then some (c.toNat - '0'.toNat)
  else if 'a' ≤ c ∧ c ≤ 'f' then some (c.toNat - 'a'.toNat + 10)
  else if 'A' ≤ c ∧ c ≤ 'F' then some (c.toNat - 'A'.toNat + 10)
  else none

def digitBelow? (base : Nat) (c : Char) : Option Nat :=
  (digit? c).filter (· < base)

/-- The number that digits of a base write; no digits write zero. -/
def read? (base : Nat) (text : List Char) : Option Nat :=
  text.foldlM (fun value c => (digitBelow? base c).map (value * base + ·)) 0

end ODataTable.Radix
