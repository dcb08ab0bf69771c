import ODataTable.Text.Split
import ODataTable.Url.Name
import ODataTable.Url.Percent

/-! Hosts: names, and addresses of version 4 and 6. -/

set_option autoImplicit false

namespace ODataTable

inductive UrlFault where
  | relativeWithoutBase
  | emptyHost
  | invalidPort
  | invalidAddress4
  | invalidAddress6
  | invalidName
  | invalidCharacter
  deriving DecidableEq, Repr

def UrlFault.message : UrlFault → String
  | .relativeWithoutBase => "relative URL without a base"
  | .emptyHost => "empty host"
  | .invalidPort => "invalid port number"
  | .invalidAddress4 => "invalid IPv4 address"
  | .invalidAddress6 => "invalid IPv6 address"
  | .invalidName => "invalid international domain name"
  | .invalidCharacter => "invalid domain character"

inductive UrlHost where
  | name (text : List Char)
  | address4 (number : Nat)
  | address6 (pieces : List Nat)
  deriving DecidableEq, Repr

namespace UrlHost

/-- A part of an address: decimal, octal after a zero, or hexadecimal after `0x`. -/
def readPart (text : List Char) : Option Nat :=
  match text with
  | [] => none
  | '0' :: 'x' :: rest | '0' :: 'X' :: rest => Radix.read? 16 rest
  | ['0'] => some 0
  | '0' :: rest => Radix.read? 8 rest
  | text => Radix.read? 10 text

def nameParts (text : List Char) : List (List Char) :=
  let parts := splitWhere (· = '.') text
  match parts.getLast? with
  | some [] => if parts.length = 1 then parts else parts.dropLast
  | _ => parts

def endsInNumber (text : List Char) : Bool :=
  match (nameParts text).getLast? with
  | some last => (!last.isEmpty && last.all Char.isDigit) || (readPart last).isSome
  | none => false

/-- Put the parts of an address together; the last part fills all octets that are left. -/
def joinParts (parts : List Nat) : Option Nat :=
  match parts.getLast? with
  | none => none
  | some last =>
    let leading := parts.dropLast
    if 3 < leading.length || leading.any (255 < ·) || Nat.pow 256 (4 - leading.length) ≤ last then none
    else some (leading.foldl (fun value part => value * 256 + part) 0 *
      Nat.pow 256 (4 - leading.length) + last)

def readAddress4 (text : List Char) : Except UrlFault UrlHost :=
  match (nameParts text).mapM readPart >>= joinParts with
  | some number => .ok (.address4 number)
  | none => .error .invalidAddress4

def writeAddress4 (number : Nat) : List Char :=
  List.intercalate ['.'] ([24, 16, 8, 0].map fun shift =>
    Nat.toDigits 10 (number / Nat.pow 2 shift % 256))

def readOctet (digits : List Char) : Option Nat :=
  let value := digits.foldl (fun value c => value * 10 + (c.toNat - '0'.toNat)) 0
  if digits.isEmpty || !digits.all Char.isDigit || (digits.head? = some '0' && 1 < digits.length)
      || 255 < value then none
  else some value

def readDotted (text : List Char) : Option (List Nat) :=
  match (splitWhere (· = '.') text).mapM readOctet with
  | some [a, b, c, d] => some [a * 256 + b, c * 256 + d]
  | _ => none

def readPiece (text : List Char) : Option Nat :=
  if text.isEmpty || 4 < text.length then none else Radix.read? 16 text

/-- Pieces between colons. Only the last part may be an address of version 4. -/
def readPieces (last : Bool) (text : List Char) : Option (List Nat) :=
  if text.isEmpty then some []
  else
    let parts := splitWhere (· = ':') text
    let final := parts.getLast?.getD []
    if last && final.contains '.' then do
      let pieces ← parts.dropLast.mapM readPiece
      some (pieces ++ (← readDotted final))
    else parts.mapM readPiece

def splitGap : List Char → List Char × Option (List Char)
  | ':' :: ':' :: rest => ([], some rest)
  | c :: rest =>
    let (head, tail) := splitGap rest
    (c :: head, tail)
  | [] => ([], none)

/-- Eight pieces, or fewer around one gap. -/
def readAddress6 (text : List Char) : Option UrlHost :=
  match splitGap text with
  | (text, none) => do
    let pieces ← readPieces true text
    if pieces.length = 8 then some (.address6 pieces) else none
  | (head, some tail) => do
    let before ← readPieces false head
    let after ← readPieces true tail
    let missing := 8 - (before.length + after.length)
    if before.length + after.length < 8 then
      some (.address6 (before ++ List.replicate missing 0 ++ after))
    else none

def zeroRun (pieces : List Nat) : Nat :=
  (pieces.takeWhile (· = 0)).length

/-- The first of the longest runs of two or more zeros, as its start and its length. -/
def longestGap (pieces : List Nat) : Option (Nat × Nat) :=
  (List.range pieces.length).foldl
    (fun best start =>
      let length := zeroRun (pieces.drop start)
      if 1 < length && (best.map Prod.snd).getD 0 < length then some (start, length) else best)
    none

def writePieces (pieces : List Nat) : List Char :=
  List.intercalate [':'] (pieces.map (Nat.toDigits 16))

def writeAddress6 (pieces : List Nat) : List Char :=
  match longestGap pieces with
  | none => writePieces pieces
  | some (start, length) =>
    writePieces (pieces.take start) ++ ':' :: ':' :: writePieces (pieces.drop (start + length))

def readBracketed (text : List Char) : Except UrlFault UrlHost :=
  match text.getLast? with
  | some ']' =>
    match readAddress6 text.dropLast with
    | some host => .ok host
    | none => .error .invalidAddress6
  | _ => .error .invalidAddress6

def isForbidden (c : Char) : Bool :=
  c.toNat ≤ 0x20 || c.toNat = 0x7F || c = '#' || c = '%' || c = '/' || c = ':' || c = '<' ||
    c = '>' || c = '?' || c = '@' || c = '[' || c = '\\' || c = ']' || c = '^' || c = '|'

def toAscii (octets : List UInt8) : Except UrlFault (List Char) :=
  match Utf8.decode octets with
  | .error _ => .error .invalidName
  | .ok text =>
    match HostName.toAscii text with
    | none => .error .invalidName
    | some ascii => if ascii.any isForbidden then .error .invalidName else .ok ascii

def parseSpecial (text : List Char) : Except UrlFault UrlHost :=
  match text with
  | '[' :: rest => readBracketed rest
  | text => do
    let name ← toAscii (Percent.decode text)
    if name.isEmpty then .error .emptyHost
    else if endsInNumber name then readAddress4 name
    else .ok (.name name)

def isForbiddenPlain (c : Char) : Bool :=
  c.toNat = 0 || c = '\t' || c = '\n' || c = '\r' || c = ' ' || c = '#' || c = '/' || c = ':' ||
    c = '<' || c = '>' || c = '?' || c = '@' || c = '[' || c = '\\' || c = ']' || c = '^' ||
    c = '|'

def parsePlain (text : List Char) : Except UrlFault UrlHost :=
  match text with
  | '[' :: rest => readBracketed rest
  | text =>
    if text.any isForbiddenPlain then .error .invalidCharacter
    else .ok (.name (Percent.encode Percent.controls text))

def write : UrlHost → List Char
  | .name text => text
  | .address4 number => writeAddress4 number
  | .address6 pieces => '[' :: writeAddress6 pieces ++ [']']

end UrlHost

end ODataTable
