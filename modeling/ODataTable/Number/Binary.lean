/-! Binary floating-point numbers, held exactly.

A finite number is a sign and a whole count of units, where one unit is the least positive
magnitude of its format. Rounding a ratio to a format is integer arithmetic: the count of
units is cut to the format's precision, and a tie goes to the even neighbour.
-/

set_option autoImplicit false

namespace ODataTable

/-- The number that is nearest to a quotient; a tie goes to the even neighbour. -/
def roundHalfEven (dividend divisor : Nat) : Nat :=
  let quotient := dividend / divisor
  let remainder := dividend % divisor
  if 2 * remainder < divisor then quotient
  else if divisor < 2 * remainder then quotient + 1
  else quotient + quotient % 2

def bitLength (n : Nat) : Nat :=
  if n = 0 then 0 else n.log2 + 1

structure BinaryFormat where
  precision : Nat
  /-- One unit is two to the minus this. -/
  fractionBits : Nat
  /-- The significand of the greatest finite magnitude is shifted by this many bits. -/
  greatestShift : Nat
  deriving DecidableEq, Repr

namespace BinaryFormat

def double : BinaryFormat := { precision := 53, fractionBits := 1074, greatestShift := 2045 }

def single : BinaryFormat := { precision := 24, fractionBits := 149, greatestShift := 253 }

def greatest (format : BinaryFormat) : Nat :=
  (Nat.pow 2 format.precision - 1) * Nat.pow 2 format.greatestShift

/-- How far the significand of a count of units is shifted. -/
def shift (format : BinaryFormat) (units : Nat) : Nat :=
  bitLength units - format.precision

/-- Cut a ratio of units to the precision of the format. -/
def roundUnits (format : BinaryFormat) (dividend divisor : Nat) : Nat :=
  let step := Nat.pow 2 (format.shift (dividend / divisor))
  roundHalfEven dividend (divisor * step) * step

end BinaryFormat

inductive Binary (format : BinaryFormat) where
  | finite (negative : Bool) (units : Nat)
  | infinite (negative : Bool)
  | nan
  deriving DecidableEq, Repr

abbrev Double := Binary .double
abbrev Single := Binary .single

namespace Binary

variable {format : BinaryFormat}

def zero : Binary format := .finite false 0

def ofUnits (negative : Bool) (dividend divisor : Nat) : Binary format :=
  let units := format.roundUnits dividend divisor
  if format.greatest < units then .infinite negative else .finite negative units

def ofRatio (negative : Bool) (dividend divisor : Nat) : Binary format :=
  ofUnits negative (dividend * Nat.pow 2 format.fractionBits) divisor

def ofNat (n : Nat) : Binary format := ofRatio false n 1

def ofInt (n : Int) : Binary format := ofRatio (n < 0) n.natAbs 1

def ofDecimal (negative : Bool) (significand : Nat) (exponent : Int) : Binary format :=
  if 0 ≤ exponent then ofRatio negative (significand * Nat.pow 10 exponent.toNat) 1
  else ofRatio negative significand (Nat.pow 10 (-exponent).toNat)

def convert {source : BinaryFormat} : Binary source → Binary format
  | .finite negative units => ofRatio negative units (Nat.pow 2 source.fractionBits)
  | .infinite negative => .infinite negative
  | .nan => .nan

def mulUnits (left right : Nat) : Binary format :=
  ofUnits false (left * right) (Nat.pow 2 format.fractionBits)

def divUnits (left right : Nat) : Binary format :=
  ofRatio false left right

def neg : Binary format → Binary format
  | .finite negative units => .finite (!negative) units
  | .infinite negative => .infinite (!negative)
  | .nan => .nan

/-- The whole part, cut toward zero and held within bounds; no number counts as zero. -/
def truncate (least greatest : Int) : Binary format → Int
  | .finite negative units =>
    let whole : Int := (units / Nat.pow 2 format.fractionBits : Nat)
    max least (min greatest (if negative then -whole else whole))
  | .infinite negative => if negative then least else greatest
  | .nan => 0

end Binary

end ODataTable
