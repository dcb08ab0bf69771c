import ODataTable.Number.Binary

/-! Decimal literals that stand for floating-point numbers, and whole-number literals. -/

set_option autoImplicit false

namespace ODataTable

def digitValue (c : Char) : Nat :=
  c.toNat - '0'.toNat

def appendDigits (start : Nat) (digits : List Char) : Nat :=
  digits.foldl (fun value c => value * 10 + digitValue c) start

def digitsValue (digits : List Char) : Nat :=
  appendDigits 0 digits

def splitSign : List Char → Bool × List Char
  | '-' :: rest => (true, rest)
  | '+' :: rest => (false, rest)
  | text => (false, text)

/-- A signed whole number: an optional sign and at least one digit. -/
def readInteger? (text : List Char) : Option Int :=
  let (negative, digits) := splitSign text
  if digits.isEmpty || !digits.all Char.isDigit then none
  else some (if negative then -(digitsValue digits : Int) else digitsValue digits)

def readInt64? (text : List Char) : Option Int :=
  (readInteger? text).filter fun n => -0x8000000000000000 ≤ n && n < 0x8000000000000000

structure DecimalLiteral where
  whole : List Char
  fraction : List Char
  exponent : Int
  deriving DecidableEq, Repr

namespace DecimalLiteral

/-- Digits with an optional point and an optional exponent; one digit must stand before or
after the point. -/
def parse? (text : List Char) : Option DecimalLiteral :=
  let whole := text.takeWhile Char.isDigit
  let afterWhole := text.dropWhile Char.isDigit
  let (fraction, rest) :=
    match afterWhole with
    | '.' :: rest => (rest.takeWhile Char.isDigit, rest.dropWhile Char.isDigit)
    | rest => ([], rest)
  if whole.isEmpty && fraction.isEmpty then none
  else
    match rest with
    | [] => some { whole, fraction, exponent := 0 }
    | c :: rest =>
      if c = 'e' || c = 'E' then
        (readInteger? rest).map fun exponent => { whole, fraction, exponent }
      else none

def significand (literal : DecimalLiteral) : Nat :=
  digitsValue (literal.whole ++ literal.fraction)

def scale (literal : DecimalLiteral) : Int :=
  literal.exponent - literal.fraction.length

/-- The nearest number of a format. Magnitudes far outside every format are settled without
computing the power of ten. -/
def toBinary {format : BinaryFormat} (negative : Bool) (literal : DecimalLiteral) :
    Binary format :=
  let significand := literal.significand
  let digits : Int := (Nat.toDigits 10 significand).length
  if significand = 0 then .finite negative 0
  else if 400 < digits + literal.scale then .infinite negative
  else if digits + literal.scale < -400 then .finite negative 0
  else .ofDecimal negative significand literal.scale

end DecimalLiteral

/-- A floating-point literal: an optional sign, then digits with an optional point and
exponent, or the name of infinity or of no number in any letter case. -/
def readBinary? {format : BinaryFormat} (text : List Char) : Option (Binary format) :=
  let (negative, rest) := splitSign text
  match DecimalLiteral.parse? rest with
  | some literal => some (literal.toBinary negative)
  | none =>
    let name := String.ofList (rest.map Char.toLower)
    if name = "inf" || name = "infinity" then some (.infinite negative)
    else if name = "nan" then some .nan
    else none

end ODataTable
