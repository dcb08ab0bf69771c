import ODataTable.Calendar.Instant
import ODataTable.Number.Literal
import ODataTable.Text.Blank

/-! Time literals.

Services write an instant as milliseconds in `/Date(…)/`, as date and time with a zone, as a
date alone, or as date and time without a zone. Each form has a reader of its own.
-/

set_option autoImplicit false

namespace ODataTable.TimeLiteral

def readDigits (least most : Nat) (text : List Char) : Option (Nat × List Char) :=
  let digits := (text.take most).takeWhile Char.isDigit
  if digits.length < least then none
  else some (digitsValue digits, text.drop digits.length)

def readChar (c : Char) : List Char → Option (List Char)
  | d :: rest => if d = c then some rest else none
  | [] => none

/-- Read a fraction of a second as nanoseconds if a point follows. Places after the ninth are
dropped. -/
def readFraction : List Char → Option (Nat × List Char)
  | '.' :: rest =>
    let digits := rest.takeWhile Char.isDigit
    if digits.isEmpty then none
    else
      let places := digits.take 9
      some (digitsValue places * Nat.pow 10 (9 - places.length), rest.dropWhile Char.isDigit)
  | text => some (0, text)

/-- The instant of a date and a time on a clock that is ahead by an offset in seconds. -/
def resolve (date : Date) (time : TimeOfDay) (offset : Int) : Option Instant :=
  if date.isValid && time.isValid then
    let shown := Instant.ofCivil date time
    let instant := { shown with seconds := shown.seconds - offset }
    if instant.inRange then some instant else none
  else none

def readZone : List Char → Option (Int × List Char)
  | [] => none
  | c :: rest =>
    if c = 'Z' || c = 'z' then some (0, rest)
    else if c = '+' || c = '-' || c = '\u2212' then do
      let (hours, rest) ← readDigits 2 2 rest
      let rest ← readChar ':' rest
      let (minutes, rest) ← readDigits 2 2 rest
      if hours < 24 && minutes < 60 then
        let offset : Int := (hours * 60 + minutes) * 60
        some (if c = '+' then offset else -offset, rest)
      else none
    else none

def readClock (text : List Char) : Option (TimeOfDay × List Char) := do
  let (hour, text) ← readDigits 2 2 text
  let text ← readChar ':' text
  let (minute, text) ← readDigits 2 2 text
  let text ← readChar ':' text
  let (second, text) ← readDigits 2 2 text
  let (nanos, text) ← readFraction text
  some (⟨hour, minute, second, nanos⟩, text)

def readAfterYear (year : Int) (text : List Char) : Option Instant := do
  let text ← readChar '-' text
  let (month, text) ← readDigits 2 2 text
  let text ← readChar '-' text
  let (day, text) ← readDigits 2 2 text
  match text with
  | [] => none
  | separator :: text =>
    if separator = 'T' || separator = 't' || separator = ' ' then do
      let (time, text) ← readClock text
      let (offset, text) ← readZone text
      if text.isEmpty then resolve ⟨year, month, day⟩ time offset else none
    else none

def zoned? (text : List Char) : Option Instant := do
  let (year, text) ← readDigits 4 4 text
  readAfterYear year text

/-! Forms without a zone, whose numbers may have blanks before them. -/

def readNumber (most : Nat) (text : List Char) : Option (Nat × List Char) :=
  readDigits 1 most (text.dropWhile isBlank)

/-- Read a year after blanks. A signed year may have any number of digits. -/
def readYear (text : List Char) : Option (Int × List Char) :=
  match text.dropWhile isBlank with
  | [] => none
  | c :: rest =>
    if c = '-' || c = '+' then do
      let (year, rest) ← readDigits 1 rest.length rest
      some (if c = '-' then -(year : Int) else year, rest)
    else do
      let (year, rest) ← readDigits 1 4 (c :: rest)
      some (year, rest)

def readDate (text : List Char) : Option (Date × List Char) := do
  let (year, text) ← readYear text
  let text ← readChar '-' text
  let (month, text) ← readNumber 2 text
  let text ← readChar '-' text
  let (day, text) ← readNumber 2 text
  some (⟨year, month, day⟩, text)

def dateOnly? (text : List Char) : Option Instant := do
  let (date, text) ← readDate text
  if text.isEmpty then resolve date ⟨0, 0, 0, 0⟩ 0 else none

/-- Date and time without a zone, taken as universal time. -/
def zoneless? (text : List Char) : Option Instant := do
  let (date, text) ← readDate text
  let text ← readChar 'T' text
  let (hour, text) ← readNumber 2 text
  let text ← readChar ':' text
  let (minute, text) ← readNumber 2 text
  let text ← readChar ':' text
  let (second, text) ← readNumber 2 text
  let (nanos, text) ← readFraction text
  if text.isEmpty then resolve date ⟨hour, minute, second, nanos⟩ 0 else none

def dropSuffix? (suffix text : List Char) : Option (List Char) :=
  if suffix.isSuffixOf text then some (text.take (text.length - suffix.length)) else none

def dropLead? : List Char → List Char → Option (List Char)
  | [], text => some text
  | _ :: _, [] => none
  | c :: lead, d :: text => if c = d then dropLead? lead text else none

def isSign (c : Char) : Bool := c = '+' || c = '-'

/-- Split a text at the first sign that is not its first character. -/
def splitOffset (text : List Char) : List Char × Option (Char × List Char) :=
  let head := text.take 1
  let rest := text.drop 1
  let millis := head ++ rest.takeWhile (!isSign ·)
  match rest.dropWhile (!isSign ·) with
  | [] => (millis, none)
  | sign :: offset => (millis, some (sign, offset))

def ofMilliseconds? (millis : Int) : Option Instant :=
  let instant : Instant :=
    { seconds := millis / 1000, nanos := (millis % 1000).toNat * 1000000 }
  if instant.inRange then some instant else none

/-- Milliseconds since 1970 with an optional number of minutes that is added to or taken from
the instant. -/
def legacy? (text : List Char) : Option Instant := do
  let inner ← dropLead? "/Date(".toList text
  let inner ← dropSuffix? ")/".toList inner
  let (millis, offset) := splitOffset inner
  let minutes ←
    match offset with
    | none => some 0
    | some (sign, digits) =>
      (readInt64? digits).map fun minutes => if sign = '-' then -minutes else minutes
  let instant ← ofMilliseconds? (← readInt64? millis)
  let moved := { instant with seconds := instant.seconds + minutes * 60 }
  if moved.inRange then some moved else none

def forms (text : List Char) : List (List Char → Option Instant) :=
  if text.head? = some '/' then [legacy?, zoned?, dateOnly?, zoneless?]
  else [zoned?, dateOnly?, zoneless?]

/-- The instant of a literal of any form. The blank instant counts as no instant. -/
def parse? (text : List Char) : Option Instant :=
  (forms text).findSome? fun form => (form text).filter (· ≠ Instant.blank)

structure Fault where
  literal : String
  deriving DecidableEq, Repr

def Fault.message (fault : Fault) : String :=
  s!"cannot parse '{fault.literal}' as a time literal"

def parse (literal : String) : Except Fault Instant :=
  match parse? literal.toList with
  | some instant => .ok instant
  | none => .error { literal }

end ODataTable.TimeLiteral
