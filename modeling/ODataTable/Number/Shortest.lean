import ODataTable.Number.Binary

/-! The shortest decimal that reads back as a given binary number.

Among the decimals that round to the number, those with the fewest digits are taken, and of
these the nearest. On each decimal grid only the two neighbours of the number can qualify.
-/

set_option autoImplicit false

namespace ODataTable

/-- A positive decimal: a significand without trailing zeros, times a power of ten. -/
structure Decimal where
  significand : Nat
  exponent : Int
  deriving DecidableEq, Repr

inductive DecimalTie where
  | even
  | up
  deriving DecidableEq, Repr

def decimalDigits (n : Nat) : List Char :=
  Nat.toDigits 10 n

namespace Decimal

def normalizeUpTo : Nat → Nat → Int → Decimal
  | 0, significand, exponent => ⟨significand, exponent⟩
  | limit + 1, significand, exponent =>
    if significand ≠ 0 ∧ significand % 10 = 0 then
      normalizeUpTo limit (significand / 10) (exponent + 1)
    else ⟨significand, exponent⟩

def normalize (significand : Nat) (exponent : Int) : Decimal :=
  normalizeUpTo (decimalDigits significand).length significand exponent

def leadingExponent (decimal : Decimal) : Int :=
  decimal.exponent + (decimalDigits decimal.significand).length - 1

end Decimal

/-- The values that round to a number: all between the number less `below` and the number
plus `above`, each given as a dividend over one divisor. -/
structure RoundingInterval where
  dividend : Nat
  divisor : Nat
  below : Nat
  above : Nat
  closed : Bool
  deriving Repr

namespace RoundingInterval

/-- The interval of a positive count of units. Under a power of two the gap to the
neighbour below is half as wide. -/
def ofUnits (format : BinaryFormat) (units : Nat) : RoundingInterval :=
  let shift := format.shift units
  let step := Nat.pow 2 shift
  let significand := units / step
  let narrow := shift ≠ 0 && significand = Nat.pow 2 (format.precision - 1)
  { dividend := 4 * units
    divisor := 4 * Nat.pow 2 format.fractionBits
    below := if narrow then step else 2 * step
    above := 2 * step
    closed := significand % 2 = 0 }

def leadingExponent (interval : RoundingInterval) : Int :=
  if interval.divisor ≤ interval.dividend then
    (decimalDigits (interval.dividend / interval.divisor)).length - 1
  else
    -(decimalDigits ((interval.divisor - 1) / interval.dividend)).length

/-- The same interval measured in steps of a power of ten. -/
def scale (interval : RoundingInterval) (exponent : Int) : RoundingInterval :=
  if 0 ≤ exponent then
    { interval with divisor := interval.divisor * Nat.pow 10 exponent.toNat }
  else
    let factor := Nat.pow 10 (-exponent).toNat
    { interval with
      dividend := interval.dividend * factor
      below := interval.below * factor
      above := interval.above * factor }

def admits (interval : RoundingInterval) (candidate : Nat) : Bool :=
  let scaled := candidate * interval.divisor
  if interval.closed then
    interval.dividend ≤ scaled + interval.below && scaled ≤ interval.dividend + interval.above
  else
    interval.dividend < scaled + interval.below && scaled < interval.dividend + interval.above

def nearest? (interval : RoundingInterval) (tie : DecimalTie) : Option Nat :=
  let lower := interval.dividend / interval.divisor
  let twice := 2 * interval.dividend
  let middle := (2 * lower + 1) * interval.divisor
  match interval.admits lower, interval.admits (lower + 1) with
  | false, false => none
  | true, false => some lower
  | false, true => some (lower + 1)
  | true, true =>
    if twice < middle then some lower
    else if middle < twice then some (lower + 1)
    else
      match tie with
      | .up => some (lower + 1)
      | .even => some (lower + lower % 2)

/-- Search grids from `exponent` downwards, each ten times finer than the one before. -/
def search (interval : RoundingInterval) (tie : DecimalTie) : Nat → Int → Decimal
  | 0, exponent =>
    let fine := interval.scale exponent
    .normalize (roundHalfEven fine.dividend fine.divisor) exponent
  | limit + 1, exponent =>
    match (interval.scale exponent).nearest? tie with
    | some significand => .normalize significand exponent
    | none => search interval tie limit (exponent - 1)

end RoundingInterval

def Decimal.shortest (format : BinaryFormat) (tie : DecimalTie) (units : Nat) : Decimal :=
  let interval := RoundingInterval.ofUnits format units
  interval.search tie 17 interval.leadingExponent

end ODataTable
