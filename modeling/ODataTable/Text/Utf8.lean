/-! UTF-8: writing characters as octets, and reading octets that may be ill-formed.

Reading splits the octets into pieces, each a character, a run of octets that no character
begins with, or a character cut off by the end. Strict and lossy reading are two views of
those pieces.
-/

set_option autoImplicit false

namespace ODataTable.Utf8

def encodeChar (c : Char) : List UInt8 :=
  let code := c.toNat
  if code < 0x80 then [code.toUInt8]
  else if code < 0x800 then
    [(0xC0 + code / 0x40).toUInt8, (0x80 + code % 0x40).toUInt8]
  else if code < 0x10000 then
    [(0xE0 + code / 0x1000).toUInt8, (0x80 + code / 0x40 % 0x40).toUInt8,
      (0x80 + code % 0x40).toUInt8]
  else
    [(0xF0 + code / 0x40000).toUInt8, (0x80 + code / 0x1000 % 0x40).toUInt8,
      (0x80 + code / 0x40 % 0x40).toUInt8, (0x80 + code % 0x40).toUInt8]

def encode (text : List Char) : List UInt8 :=
  text.flatMap encodeChar

inductive Piece where
  | char (c : Char)
  /-- That many octets begin no character. -/
  | illFormed (length : Nat)
  | cutOff
  deriving DecidableEq, Repr

def owed (lead : UInt8) : Option Nat :=
  if lead < 0x80 then some 0
  else if lead < 0xC2 then none
  else if lead < 0xE0 then some 1
  else if lead < 0xF0 then some 2
  else if lead < 0xF5 then some 3
  else none

def followsLead (lead second : UInt8) : Bool :=
  let least : UInt8 := if lead = 0xE0 then 0xA0 else if lead = 0xF0 then 0x90 else 0x80
  let greatest : UInt8 := if lead = 0xED then 0x9F else if lead = 0xF4 then 0x8F else 0xBF
  least ≤ second && second ≤ greatest

def continues (octet : UInt8) : Bool :=
  0x80 ≤ octet && octet ≤ 0xBF

def leadBits (lead : UInt8) (count : Nat) : Nat :=
  match count with
  | 0 => lead.toNat
  | 1 => lead.toNat - 0xC0
  | 2 => lead.toNat - 0xE0
  | _ => lead.toNat - 0xF0

/-- Read `count` further octets of a character whose payload so far is `bits` and of which
`taken` octets are read. -/
def readTail (bits taken : Nat) : Nat → List UInt8 → Piece × List UInt8
  | 0, rest => (.char (Char.ofNat bits), rest)
  | _ + 1, [] => (.cutOff, [])
  | count + 1, octet :: rest =>
    if continues octet then
      readTail (bits * 0x40 + (octet.toNat - 0x80)) (taken + 1) count rest
    else (.illFormed taken, octet :: rest)

def readPiece (lead : UInt8) (rest : List UInt8) : Piece × List UInt8 :=
  match owed lead with
  | none => (.illFormed 1, rest)
  | some 0 => (.char (Char.ofNat lead.toNat), rest)
  | some (count + 1) =>
    match rest with
    | [] => (.cutOff, [])
    | second :: rest =>
      if followsLead lead second then
        readTail (leadBits lead (count + 1) * 0x40 + (second.toNat - 0x80)) 2 count rest
      else (.illFormed 1, second :: rest)

def piecesUpTo : Nat → List UInt8 → List Piece
  | 0, _ => []
  | _ + 1, [] => []
  | limit + 1, lead :: rest =>
    let (piece, rest) := readPiece lead rest
    piece :: piecesUpTo limit rest

def pieces (octets : List UInt8) : List Piece :=
  piecesUpTo octets.length octets

structure Fault where
  index : Nat
  /-- The number of octets that begin no character, or nothing at the end of the sequence. -/
  length : Option Nat
  deriving DecidableEq, Repr

def Fault.message (fault : Fault) : String :=
  match fault.length with
  | some length =>
    s!"invalid utf-8 sequence of {length} bytes from index {fault.index}"
  | none => s!"incomplete utf-8 byte sequence from index {fault.index}"

def collect : Nat → List Piece → Except Fault (List Char)
  | _, [] => .ok []
  | index, .char c :: rest =>
    match collect (index + (encodeChar c).length) rest with
    | .ok text => .ok (c :: text)
    | .error fault => .error fault
  | index, .illFormed length :: _ => .error { index, length := some length }
  | index, .cutOff :: _ => .error { index, length := none }

def decode (octets : List UInt8) : Except Fault (List Char) :=
  collect 0 (pieces octets)

/-- The text of any octets, with U+FFFD for each piece that is no character. -/
def decodeLossy (octets : List UInt8) : List Char :=
  (pieces octets).map fun
    | .char c => c
    | _ => Char.ofNat 0xFFFD

end ODataTable.Utf8
