/-! Texts in ASCII.

A text with other characters is written as its ASCII characters and a number for each of the
others. A number says how many steps a counter of code points and positions takes until
the next insertion.
-/

set_option autoImplicit false

namespace ODataTable.Punycode

def adaptUpTo : Nat → Nat → Nat → Nat
  | 0, delta, offset => offset + 36 * delta / (delta + 38)
  | limit + 1, delta, offset =>
    if 455 < delta then adaptUpTo limit (delta / 35) (offset + 36)
    else offset + 36 * delta / (delta + 38)

def adapt (delta count : Nat) (first : Bool) : Nat :=
  let damped := if first then delta / 700 else delta / 2
  adaptUpTo 64 (damped + damped / count) 0

def threshold (position bias : Nat) : Nat :=
  if position ≤ bias then 1 else min 26 (position - bias)

def digitChar (digit : Nat) : Char :=
  if digit < 26 then Char.ofNat ('a'.toNat + digit) else Char.ofNat ('0'.toNat + (digit - 26))

def digitValue? (c : Char) : Option Nat :=
  if 'a' ≤ c ∧ c ≤ 'z' then some (c.toNat - 'a'.toNat)
  else if 'A' ≤ c ∧ c ≤ 'Z' then some (c.toNat - 'A'.toNat)
  else if c.isDigit then some (c.toNat - '0'.toNat + 26)
  else none

def writeNumber (bias : Nat) : Nat → Nat → Nat → List Char
  | 0, _, _ => []
  | limit + 1, position, n =>
    let least := threshold position bias
    if n < least then [digitChar n]
    else
      digitChar (least + (n - least) % (36 - least)) ::
        writeNumber bias limit (position + 36) ((n - least) / (36 - least))

def readNumber (bias : Nat) : Nat → Nat → Nat → List Char → Option (Nat × List Char)
  | _, _, _, [] => none
  | position, weight, value, c :: rest => do
    let digit ← digitValue? c
    let least := threshold position bias
    let value := value + digit * weight
    if digit < least then some (value, rest)
    else readNumber bias (position + 36) (weight * (36 - least)) value rest

structure Encoding where
  bias : Nat
  delta : Nat
  handled : Nat
  first : Bool
  text : List Char

def encodeCode (label : List Nat) (code : Nat) (state : Encoding) : Encoding :=
  label.foldl
    (fun state c =>
      if c < code then { state with delta := state.delta + 1 }
      else if c = code then
        { bias := adapt state.delta (state.handled + 1) state.first
          delta := 0
          handled := state.handled + 1
          first := false
          text := state.text ++ writeNumber state.bias 64 36 state.delta }
      else state)
    state

/-- Encode the code points of a label from `least` on; `limit` bounds their number. -/
def encodeFrom (label : List Nat) : Nat → Nat → Encoding → Encoding
  | 0, _, state => state
  | limit + 1, least, state =>
    match (label.filter (least ≤ ·)).min? with
    | none => state
    | some code =>
      let skipped := { state with delta := state.delta + (code - least) * (state.handled + 1) }
      let next := encodeCode label code skipped
      encodeFrom label limit (code + 1) { next with delta := next.delta + 1 }

def encode (label : List Char) : List Char :=
  let plain := label.filter (·.toNat < 0x80)
  let start := if plain.isEmpty then [] else plain ++ ['-']
  (encodeFrom (label.map Char.toNat) label.length 0x80
    { bias := 72, delta := 0, handled := plain.length, first := true, text := start }).text

def decodeFrom : Nat → Nat → Nat → Nat → List Char → List Char → Option (List Char)
  | _, _, _, _, label, [] => some label
  | 0, _, _, _, _, _ :: _ => none
  | limit + 1, bias, code, index, label, c :: rest => do
    let (value, rest) ← readNumber bias 36 1 0 (c :: rest)
    let count := label.length + 1
    let place := (index + value) % count
    let code := code + (index + value) / count
    if 0x10FFFF < code || (0xD800 ≤ code && code ≤ 0xDFFF) then none
    else
      let label := label.take place ++ Char.ofNat code :: label.drop place
      decodeFrom limit (adapt value count (index = 0)) code
        (place + 1) label rest

def decode (text : List Char) : Option (List Char) :=
  let plain := (text.reverse.dropWhile (· ≠ '-')).drop 1 |>.reverse
  let numbers := if text.contains '-' then text.drop (plain.length + 1) else text
  decodeFrom text.length 72 0x80 0 plain numbers

end ODataTable.Punycode
