import ODataTable.Number.Shortest

/-! Writing binary numbers as decimal text. -/

set_option autoImplicit false

namespace ODataTable

structure DecimalLayout where
  /-- The leading powers of ten that are written without an exponent, or all of them. -/
  plain : Option (Int × Int)
  /-- Whether a whole number without an exponent ends in a point and a zero. -/
  marksWhole : Bool
  tie : DecimalTie
  deriving Repr

namespace DecimalLayout

def jsonDouble : DecimalLayout := { plain := some (-5, 15), marksWhole := true, tie := .even }

def jsonSingle : DecimalLayout := { plain := some (-6, 12), marksWhole := true, tie := .even }

def display : DecimalLayout := { plain := none, marksWhole := false, tie := .up }

def writePlain (layout : DecimalLayout) (decimal : Decimal) : List Char :=
  let digits := decimalDigits decimal.significand
  if 0 ≤ decimal.exponent then
    digits ++ List.replicate decimal.exponent.toNat '0' ++
      (if layout.marksWhole then ['.', '0'] else [])
  else
    let places := (-decimal.exponent).toNat
    if places < digits.length then
      digits.take (digits.length - places) ++ '.' :: digits.drop (digits.length - places)
    else '0' :: '.' :: List.replicate (places - digits.length) '0' ++ digits

def writeScientific (decimal : Decimal) : List Char :=
  let exponent := decimal.leadingExponent
  let sign := if exponent < 0 then '-' else '+'
  let fraction :=
    match decimalDigits decimal.significand with
    | [] => []
    | [digit] => [digit]
    | digit :: rest => digit :: '.' :: rest
  fraction ++ 'e' :: sign :: decimalDigits exponent.natAbs

def writeDecimal (layout : DecimalLayout) (decimal : Decimal) : List Char :=
  match layout.plain with
  | none => layout.writePlain decimal
  | some (least, greatest) =>
    let exponent := decimal.leadingExponent
    if least ≤ exponent ∧ exponent ≤ greatest then layout.writePlain decimal
    else writeScientific decimal

def writeFinite (layout : DecimalLayout) (format : BinaryFormat) (negative : Bool)
    (units : Nat) : List Char :=
  (if negative then ['-'] else []) ++
    if units = 0 then '0' :: (if layout.marksWhole then ['.', '0'] else [])
    else layout.writeDecimal (.shortest format layout.tie units)

def write {format : BinaryFormat} (layout : DecimalLayout) : Binary format → List Char
  | .finite negative units => layout.writeFinite format negative units
  | .infinite negative => (if negative then "-inf" else "inf").toList
  | .nan => "NaN".toList

end DecimalLayout

end ODataTable
