import ODataTable.Json.Fault
import ODataTable.Json.Value
import ODataTable.Text.Utf8

/-! Reading the smallest parts of a JSON text: blanks, literals, strings and numbers.

A reader takes the octets that are left and gives what it read with the octets after it.
Strings and numbers can also be skipped; skipping checks less than reading does.

A loop whose steps take several octets is also given a `bound`, octets of which it drops one
at each step. The input itself is always a bound long enough, and costs nothing to measure.
-/

set_option autoImplicit false

namespace ODataTable.Json

abbrev Reader (α : Type) := List UInt8 → Except Fault (α × List UInt8)

def octet (c : Char) : UInt8 := c.toNat.toUInt8

def isBlank (b : UInt8) : Bool :=
  b = 0x20 || b = 0x09 || b = 0x0A || b = 0x0D

def skipBlanks (input : List UInt8) : List UInt8 :=
  input.dropWhile isBlank

def isDigit (b : UInt8) : Bool :=
  octet '0' ≤ b && b ≤ octet '9'

def isExponentMark (b : UInt8) : Bool :=
  b = octet 'e' || b = octet 'E'

def readLiteral : List Char → Reader Unit
  | [], input => .ok ((), input)
  | _ :: _, [] => .error .endInValue
  | c :: rest, b :: input =>
    if b = octet c then readLiteral rest input else .error .expectedLiteral

def hexValue? (b : UInt8) : Option Nat :=
  if isDigit b then some (b.toNat - '0'.toNat)
  else if octet 'a' ≤ b && b ≤ octet 'f' then some (b.toNat - 'a'.toNat + 10)
  else if octet 'A' ≤ b && b ≤ octet 'F' then some (b.toNat - 'A'.toNat + 10)
  else none

def readHex : Reader Nat
  | a :: b :: c :: d :: rest =>
    match hexValue? a, hexValue? b, hexValue? c, hexValue? d with
    | some a, some b, some c, some d => .ok (a * 0x1000 + b * 0x100 + c * 0x10 + d, rest)
    | _, _, _, _ => .error .invalidEscape
  | _ => .error .endInString

def plainEscape? (b : UInt8) : Option UInt8 :=
  if b = octet '"' || b = octet '\\' || b = octet '/' then some b
  else if b = octet 'b' then some 0x08
  else if b = octet 'f' then some 0x0C
  else if b = octet 'n' then some 0x0A
  else if b = octet 'r' then some 0x0D
  else if b = octet 't' then some 0x09
  else none

def isLeadingSurrogate (code : Nat) : Bool := 0xD800 ≤ code && code ≤ 0xDBFF

def isTrailingSurrogate (code : Nat) : Bool := 0xDC00 ≤ code && code ≤ 0xDFFF

/-- Read the character of an escape after its backslash and letter. A code point beyond the
basic plane is written as two surrogates. -/
def readCodePoint (input : List UInt8) : Except Fault (Char × List UInt8) := do
  let (first, input) ← readHex input
  if isTrailingSurrogate first then .error .loneSurrogate
  else if isLeadingSurrogate first then
    match input with
    | [] => .error .endInString
    | b :: input =>
      if b = octet '\\' then
        match input with
        | [] => .error .endInString
        | b :: input =>
          if b = octet 'u' then do
            let (second, input) ← readHex input
            if isTrailingSurrogate second then
              .ok (Char.ofNat ((first - 0xD800) * 0x400 + (second - 0xDC00) + 0x10000), input)
            else .error .loneSurrogate
          else .error .unfinishedSurrogate
      else .error .unfinishedSurrogate
  else .ok (Char.ofNat first, input)

def readEscape : List UInt8 → Except Fault (List UInt8 × List UInt8)
  | [] => .error .endInString
  | b :: input =>
    match plainEscape? b with
    | some plain => .ok ([plain], input)
    | none =>
      if b = octet 'u' then do
        let (c, input) ← readCodePoint input
        .ok (Utf8.encodeChar c, input)
      else .error .invalidEscape

def readQuoted : (bound : List UInt8) → Reader (List UInt8)
  | [], _ => .error .endInString
  | _ :: _, [] => .error .endInString
  | _ :: bound, b :: input =>
    if b = octet '"' then .ok ([], input)
    else if b = octet '\\' then do
      let (escaped, input) ← readEscape input
      let (rest, input) ← readQuoted bound input
      .ok (escaped ++ rest, input)
    else if b < 0x20 then .error .controlCharacter
    else do
      let (rest, input) ← readQuoted bound input
      .ok (b :: rest, input)

def readString (input : List UInt8) : Except Fault (List Char × List UInt8) := do
  let (octets, input) ← readQuoted input input
  match Utf8.decode octets with
  | .ok text => .ok (text, input)
  | .error _ => .error .invalidCodePoint

def skipEscape : List UInt8 → Except Fault (List UInt8)
  | [] => .error .endInString
  | b :: input =>
    if (plainEscape? b).isSome then .ok input
    else if b = octet 'u' then do
      let (_, input) ← readHex input
      .ok input
    else .error .invalidEscape

def skipQuoted : (bound input : List UInt8) → Except Fault (List UInt8)
  | [], _ => .error .endInString
  | _ :: _, [] => .error .endInString
  | _ :: bound, b :: input =>
    if b = octet '"' then .ok input
    else if b = octet '\\' then do skipQuoted bound (← skipEscape input)
    else if b < 0x20 then .error .controlCharacter
    else skipQuoted bound input

/-- Skip a string after its opening quote, without looking at what its octets encode. -/
def skipString (input : List UInt8) : Except Fault (List UInt8) :=
  skipQuoted input input

/-! Numbers.

A number that is no whole number of 64 bits is gathered into a 64-bit significand and a power
of ten. Digits that no longer fit only raise the power, or are dropped after the point, and
the final scaling rounds once for each factor.
-/

/-- Read digits into a significand as long as it fits into 64 bits. -/
def gather (significand : Nat) : List UInt8 → Nat × Nat × List UInt8
  | [] => (significand, 0, [])
  | b :: input =>
    if isDigit b then
      let next := significand * 10 + (b.toNat - '0'.toNat)
      if next < 0x10000000000000000 then
        let (final, count, rest) := gather next input
        (final, count + 1, rest)
      else (significand, 0, b :: input)
    else (significand, 0, b :: input)

def powerOfTen (exponent : Nat) : Nat :=
  BinaryFormat.double.roundUnits
    (Nat.pow 10 exponent * Nat.pow 2 BinaryFormat.double.fractionBits) 1

/-- Divide a magnitude by ten to the power `exponent`, in steps of at most 308. -/
def scaleDown : Nat → Double → Nat → Double
  | 0, value, _ => value
  | limit + 1, .finite negative units, exponent =>
    if exponent ≤ 308 then .divUnits units (powerOfTen exponent)
    else if units = 0 then .finite negative units
    else scaleDown limit (.divUnits units (powerOfTen 308)) (exponent - 308)
  | _ + 1, value, _ => value

def scaled (significand : Nat) (exponent : Int) : Except Fault Double :=
  match (Binary.ofNat significand : Double) with
  | .finite negative units =>
    if 0 ≤ exponent then
      if exponent ≤ 308 then
        match (Binary.mulUnits units (powerOfTen exponent.toNat) : Double) with
        | .infinite _ => .error .numberOutOfRange
        | value => .ok value
      else if units = 0 then .ok (.finite negative units)
      else .error .numberOutOfRange
    else .ok (scaleDown 8 (.finite negative units) (-exponent).toNat)
  | value => .ok value

def signed (negative : Bool) (value : Double) : Value :=
  .real (if negative then value.neg else value)

def withExponent (negative : Bool) (significand : Nat) (exponent : Int) (lowers : Bool)
    (digits : List UInt8) : Except Fault Value :=
  let written := digits.foldl (fun n b => n * 10 + (b.toNat - '0'.toNat)) 0
  if written < 0x80000000 then do
    let exponent := if lowers then exponent - written else exponent + written
    .ok (signed negative (← scaled significand exponent))
  else if significand ≠ 0 ∧ !lowers then .error .numberOutOfRange
  else .ok (signed negative .zero)

def readExponent (negative : Bool) (significand : Nat) (exponent : Int) :
    Reader Value := fun input =>
  let (lowers, input) :=
    match input with
    | b :: rest =>
      if b = octet '+' then (false, rest)
      else if b = octet '-' then (true, rest)
      else (false, input)
    | [] => (false, [])
  match input with
  | [] => .error .endInValue
  | b :: _ =>
    if isDigit b then do
      let value ← withExponent negative significand exponent lowers (input.takeWhile isDigit)
      .ok (value, input.dropWhile isDigit)
    else .error .invalidNumber

/-- Read what may follow the digits of a number that is not whole. -/
def readScale (negative : Bool) (significand : Nat) (exponent : Int) : Reader Value
  | [] => do .ok (signed negative (← scaled significand exponent), [])
  | b :: input => do
    if isExponentMark b then readExponent negative significand exponent input
    else .ok (signed negative (← scaled significand exponent), b :: input)

def readFraction (negative : Bool) (significand : Nat) (exponent : Int) :
    Reader Value := fun input =>
  match input with
  | [] => .error .endInValue
  | b :: _ =>
    if isDigit b then
      let (significand, count, rest) := gather significand input
      readScale negative significand (exponent - count) (rest.dropWhile isDigit)
    else .error .invalidNumber

/-- A whole number without a fraction or an exponent. Minus zero is a double. -/
def wholeNumber (negative : Bool) (significand : Nat) : Value :=
  if negative then
    if 0 < significand && significand ≤ 0x8000000000000000 then .integer (-significand)
    else signed true (.ofNat significand)
  else .integer significand

def readAfterWhole (negative : Bool) (significand : Nat) : Reader Value
  | [] => .ok (wholeNumber negative significand, [])
  | b :: input =>
    if b = octet '.' then readFraction negative significand 0 input
    else if isExponentMark b then readExponent negative significand 0 input
    else if isDigit b then
      let excess := (b :: input).takeWhile isDigit
      match (b :: input).dropWhile isDigit with
      | [] => readScale negative significand excess.length []
      | c :: rest =>
        if c = octet '.' then readFraction negative significand excess.length rest
        else readScale negative significand excess.length (c :: rest)
    else .ok (wholeNumber negative significand, b :: input)

def readNumber (negative : Bool) : Reader Value
  | [] => .error .endInValue
  | b :: input =>
    if b = octet '0' then
      match input with
      | [] => readAfterWhole negative 0 []
      | c :: rest =>
        if isDigit c then .error .invalidNumber else readAfterWhole negative 0 (c :: rest)
    else if isDigit b then
      let (significand, _, rest) := gather 0 (b :: input)
      readAfterWhole negative significand rest
    else .error .invalidNumber

def skipExponent (input : List UInt8) : Except Fault (List UInt8) :=
  let input :=
    match input with
    | b :: rest => if b = octet '+' || b = octet '-' then rest else input
    | [] => []
  match input with
  | b :: _ => if isDigit b then .ok (input.dropWhile isDigit) else .error .invalidNumber
  | [] => .error .invalidNumber

def skipScale : List UInt8 → Except Fault (List UInt8)
  | b :: input => if isExponentMark b then skipExponent input else .ok (b :: input)
  | [] => .ok []

def skipAfterWhole : List UInt8 → Except Fault (List UInt8)
  | b :: input =>
    if b = octet '.' then
      match input with
      | c :: _ =>
        if isDigit c then skipScale (input.dropWhile isDigit) else .error .invalidNumber
      | [] => .error .invalidNumber
    else skipScale (b :: input)
  | [] => .ok []

/-- Skip a number after its sign, of any size. -/
def skipNumber : List UInt8 → Except Fault (List UInt8)
  | b :: input =>
    if b = octet '0' then
      match input with
      | c :: rest => if isDigit c then .error .invalidNumber else skipAfterWhole (c :: rest)
      | [] => .ok []
    else if isDigit b then skipAfterWhole (input.dropWhile isDigit)
    else .error .invalidNumber
  | [] => .error .invalidNumber

end ODataTable.Json
