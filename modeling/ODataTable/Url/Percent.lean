import ODataTable.Number.Radix
import ODataTable.Text.Utf8

/-! Percent encoding: an octet as a percent sign and two hexadecimal digits. -/

set_option autoImplicit false

namespace ODataTable.Percent

def hexDigit (n : Nat) : Char :=
  if n < 10 then Char.ofNat ('0'.toNat + n) else Char.ofNat ('A'.toNat + (n - 10))

def encodeOctet (octet : UInt8) : List Char :=
  ['%', hexDigit (octet.toNat / 16), hexDigit (octet.toNat % 16)]

def encodeChar (c : Char) : List Char :=
  (Utf8.encodeChar c).flatMap encodeOctet

def encode (set : Char → Bool) (text : List Char) : List Char :=
  text.flatMap fun c => if set c then encodeChar c else [c]

/-- The octets of a text in which each percent sign before two hexadecimal digits stands for
one octet. -/
def decode : List Char → List UInt8
  | [] => []
  | '%' :: high :: low :: rest =>
    match Radix.digit? high, Radix.digit? low with
    | some a, some b => (a * 16 + b).toUInt8 :: decode rest
    | _, _ => Utf8.encodeChar '%' ++ decode (high :: low :: rest)
  | c :: rest => Utf8.encodeChar c ++ decode rest

/-! Sets of characters that may not stand as they are in a part of a URL. -/

def controls (c : Char) : Bool :=
  c.toNat < 0x20 || 0x7F ≤ c.toNat

def fragmentSet (c : Char) : Bool :=
  controls c || c = ' ' || c = '"' || c = '<' || c = '>' || c.toNat = 0x60

def querySet (c : Char) : Bool :=
  controls c || c = ' ' || c = '"' || c = '#' || c = '<' || c = '>'

def specialQuerySet (c : Char) : Bool :=
  querySet c || c = '\''

def pathSet (c : Char) : Bool :=
  fragmentSet c || c = '#' || c = '?' || c = '\x7b' || c = '\x7d'

def userInfoSet (c : Char) : Bool :=
  pathSet c || c = '/' || c = ':' || c = ';' || c = '=' || c = '@' || c = '[' || c = '\\' ||
    c = ']' || c = '^' || c = '|'

/-- All but letters, digits and four marks. -/
def componentSet (c : Char) : Bool :=
  !(c.isAlphanum || c = '-' || c = '_' || c = '.' || c = '~')

end ODataTable.Percent
