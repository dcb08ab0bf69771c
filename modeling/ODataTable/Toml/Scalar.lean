import ODataTable.Calendar.Literal
import ODataTable.Number.Radix
import ODataTable.Text.Split

/-! TOML values of one word: numbers, truth values, dates and times. -/

set_option autoImplicit false

namespace ODataTable.Toml

inductive Scalar where
  | bool (value : Bool)
  | integer (value : Int)
  | real (value : Double)
  | date (date : Date)
  | time (time : TimeOfDay)
  /-- A date and a time; without an offset in seconds they are local. -/
  | dateTime (date : Date) (time : TimeOfDay) (offset : Option Int)
  deriving DecidableEq, Repr

namespace Scalar

def digits? (base : Nat) (text : List Char) : Option (List Char) :=
  let groups := splitWhere (· = '_') text
  let isGroup := fun (group : List Char) =>
    !group.isEmpty && group.all fun c => (Radix.digitBelow? base c).isSome
  if groups.all isGroup then some groups.flatten else none

def wholeDigits? (text : List Char) : Option (List Char) :=
  (digits? 10 text).filter fun digits => digits.length = 1 || digits.head? ≠ some '0'

def radixInteger? (base : Nat) (text : List Char) : Option Int := do
  let value ← Radix.read? base (← digits? base text)
  if value < 0x8000000000000000 then some value else none

def integer? (text : List Char) : Option Int :=
  match text with
  | '0' :: 'x' :: rest => radixInteger? 16 rest
  | '0' :: 'o' :: rest => radixInteger? 8 rest
  | '0' :: 'b' :: rest => radixInteger? 2 rest
  | text => do
    let (negative, rest) := splitSign text
    let digits ← wholeDigits? rest
    readInt64? (if negative then '-' :: digits else digits)

def isDigitOrMark (c : Char) : Bool := c.isDigit || c = '_'

def exponent? (text : List Char) : Option Int :=
  match text with
  | [] => some 0
  | c :: rest =>
    if c = 'e' || c = 'E' then do
      let (negative, rest) := splitSign rest
      let digits ← digits? 10 rest
      some (if negative then -(digitsValue digits : Int) else digitsValue digits)
    else none

def decimal? (text : List Char) : Option DecimalLiteral := do
  let whole ← wholeDigits? (text.takeWhile isDigitOrMark)
  match text.dropWhile isDigitOrMark with
  | [] => none
  | '.' :: rest => do
    let fraction ← digits? 10 (rest.takeWhile isDigitOrMark)
    let exponent ← exponent? (rest.dropWhile isDigitOrMark)
    some { whole, fraction, exponent }
  | rest => do
    let exponent ← exponent? rest
    some { whole, fraction := [], exponent }

/-- A floating-point number. A magnitude that only a positive infinity could stand for is
refused. -/
def real? (text : List Char) : Option Double :=
  let (negative, rest) := splitSign text
  if rest = ['i', 'n', 'f'] then some (.infinite negative)
  else if rest = ['n', 'a', 'n'] then some .nan
  else
    ((decimal? rest).map (·.toBinary negative)).filter fun value => value ≠ .infinite false

def readDate (text : List Char) : Option (Date × List Char) := do
  let (year, text) ← TimeLiteral.readDigits 4 4 text
  let text ← TimeLiteral.readChar '-' text
  let (month, text) ← TimeLiteral.readDigits 2 2 text
  let text ← TimeLiteral.readChar '-' text
  let (day, text) ← TimeLiteral.readDigits 2 2 text
  let date : Date := ⟨year, month, day⟩
  if date.isValid then some (date, text) else none

def readTime (text : List Char) : Option (TimeOfDay × List Char) :=
  (TimeLiteral.readClock text).filter fun read => read.1.isValid

def time? (text : List Char) : Option TimeOfDay :=
  match readTime text with
  | some (clock, []) => some clock
  | _ => none

def date? (text : List Char) : Option Date :=
  match readDate text with
  | some (day, []) => some day
  | _ => none

/-- A date and a time around a letter or a space, and an optional offset. -/
def dateTime? (text : List Char) : Option Scalar := do
  match ← readDate text with
  | (_, []) => none
  | (day, separator :: text) =>
    if separator = 'T' || separator = 't' || separator = ' ' then
      match ← readTime text with
      | (clock, []) => some (.dateTime day clock none)
      | (clock, text) =>
        match ← TimeLiteral.readZone text with
        | (offset, []) => some (.dateTime day clock (some offset))
        | _ => none
    else none

def parse? (text : List Char) : Option Scalar :=
  if text = ['t', 'r', 'u', 'e'] then some (.bool true)
  else if text = ['f', 'a', 'l', 's', 'e'] then some (.bool false)
  else
    ((date? text).map .date) <|> ((time? text).map .time) <|> dateTime? text <|>
      ((real? text).map .real) <|> ((integer? text).map .integer)

def isWordChar (c : Char) : Bool :=
  c.isAlphanum || c = '+' || c = '-' || c = '_' || c = '.' || c = ':'

/-- The characters of a word. A space joins a date to a time that follows it. -/
def takeWord (text : List Char) : List Char × List Char :=
  let word := text.takeWhile isWordChar
  match text.dropWhile isWordChar with
  | ' ' :: c :: rest =>
    if (date? word).isSome && c.isDigit then
      (word ++ ' ' :: (c :: rest).takeWhile isWordChar, (c :: rest).dropWhile isWordChar)
    else (word, ' ' :: c :: rest)
  | rest => (word, rest)

end Scalar

end ODataTable.Toml
