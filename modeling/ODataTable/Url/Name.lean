import ODataTable.Text.Direction
import ODataTable.Text.Joining
import ODataTable.Text.Normal
import ODataTable.Url.NameImage
import ODataTable.Url.Punycode

/-! International names of hosts, and their form in ASCII.

A name is mapped to its images and brought to normal form, and then cut into labels. A label that
begins with `xn--` stands for the one that it encodes.
-/

set_option autoImplicit false

namespace ODataTable.HostName

def labels (name : List Char) : Option (List (List Char)) :=
  if name.all NameImage.isAllowed then
    some (splitWhere (· = '.') (normalForm (name.flatMap NameImage.ofChar)))
  else none

def isPlain (label : List Char) : Bool :=
  label.all (·.toNat < 0x80)

def isSettled (label : List Char) : Bool :=
  label.all (fun c => NameImage.isAllowed c && NameImage.ofChar c = [c]) &&
    normalForm label = label

def longestLabel : Nat := 1000

def longestEncoding : Nat := 2000

/-- The label that an encoded label stands for. It has to need an encoding, and this one. -/
def decodeLabel (encoded : List Char) : Option (List Char) := do
  if longestEncoding < encoded.length then none
  let label ← Punycode.decode encoded
  if !isPlain label && isSettled label && Punycode.encode label = encoded then some label
  else none

def readLabel (label : List Char) : Option (List Char) :=
  match label with
  | 'x' :: 'n' :: '-' :: '-' :: encoded => decodeLabel encoded
  | label => some label

def writeLabel (label : List Char) : List Char :=
  if isPlain label then label else "xn--".toList ++ Punycode.encode label

def nonJoiner : Char := '\u200c'

def joiner : Char := '\u200d'

def isVirama (c : Char) : Bool :=
  combiningClass c = viramaClass

def reaches (condition : Char → Bool) (text : List Char) : Bool :=
  ((text.dropWhile Joining.isTransparent).head?.map condition).getD false

/-- Whether all joiners stand where they change the look of a word: after a virama, or between
letters that would join without them. `before` is in reverse. -/
def joinersFit (before : List Char) : List Char → Bool
  | [] => true
  | c :: rest =>
    let fits :=
      if c = nonJoiner || c = joiner then
        (before.head?.map isVirama).getD false ||
          (c = nonJoiner && reaches Joining.joinsNext before &&
            reaches Joining.joinsPrevious rest)
      else true
    fits && joinersFit (c :: before) rest

/-- Whether a label begins with a letter of its own, its joiners fit, and it can be encoded. -/
def isWellFormed (label : List Char) : Bool :=
  !(label.head?.map isMark).getD false && joinersFit [] label &&
    (isPlain label || label.length ≤ longestLabel)

def turnsLeft (labels : List (List Char)) : Bool :=
  labels.any fun label => label.any fun c =>
    Direction.ofChar c = .rightToLeft || Direction.ofChar c = .arabicDigit

def lastDirection? (directions : List Direction) : Option Direction :=
  (directions.filter (· ≠ .mark)).getLast?

/-- Whether a label has one direction: it begins with a letter, holds nothing that goes the other
way or two kinds of digits, and ends in a letter or a digit. -/
def hasOneDirection (label : List Char) : Bool :=
  let directions := label.map Direction.ofChar
  match directions.head?, lastDirection? directions with
  | none, _ => true
  | some .leftToRight, some last =>
    directions.all (fun direction => direction ≠ .rightToLeft && direction ≠ .arabicDigit) &&
      (last = .leftToRight || last = .europeanDigit)
  | some .rightToLeft, some last =>
    !directions.contains .leftToRight && last ≠ .neutral &&
      !(directions.contains .arabicDigit && directions.contains .europeanDigit)
  | _, _ => false

def toAscii (name : List Char) : Option (List Char) := do
  let labels ← (← labels name).mapM readLabel
  if labels.all isWellFormed && (!turnsLeft labels || labels.all hasOneDirection) then
    some (List.intercalate ['.'] (labels.map writeLabel))
  else none

end ODataTable.HostName
