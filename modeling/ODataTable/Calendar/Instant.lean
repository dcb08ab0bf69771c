import ODataTable.Calendar.Date
import ODataTable.Number.Shortest

/-! Instants in universal time, and their printed forms. -/

set_option autoImplicit false

namespace ODataTable

/-- A point in time. In a leap second the count of nanoseconds passes a billion. -/
structure Instant where
  /-- Seconds since the start of 1970. -/
  seconds : Int
  nanos : Nat
  deriving DecidableEq, Repr

structure TimeOfDay where
  hour : Nat
  minute : Nat
  second : Nat
  nanos : Nat
  deriving DecidableEq, Repr

namespace TimeOfDay

/-- Whether a clock shows the time; second 60 stands for a leap second. -/
def isValid (time : TimeOfDay) : Bool :=
  time.hour < 24 && time.minute < 60 && time.second ≤ 60

end TimeOfDay

namespace Instant

def ofCivil (date : Date) (time : TimeOfDay) : Instant :=
  let leap := time.second = 60
  { seconds :=
      date.dayNumber * 86400 + time.hour * 3600 + time.minute * 60 +
        (if leap then 59 else time.second)
    nanos := if leap then time.nanos + 1000000000 else time.nanos }

def date (instant : Instant) : Date :=
  .ofDayNumber (instant.seconds / 86400)

def timeOfDay (instant : Instant) : TimeOfDay :=
  let second := (instant.seconds % 86400).toNat
  let leap := 1000000000 ≤ instant.nanos
  { hour := second / 3600
    minute := second / 60 % 60
    second := if leap then second % 60 + 1 else second % 60
    nanos := if leap then instant.nanos - 1000000000 else instant.nanos }

def inRange (instant : Instant) : Bool :=
  (Date.mk Date.leastYear 1 1).dayNumber * 86400 ≤ instant.seconds &&
    instant.seconds < ((Date.mk Date.greatestYear 12 31).dayNumber + 1) * 86400

/-- Midnight at the start of year 1, which services send for a missing value. -/
def blank : Instant := .ofCivil ⟨1, 1, 1⟩ ⟨0, 0, 0, 0⟩

def wholeSecond (instant : Instant) : Instant :=
  { instant with nanos := if 1000000000 ≤ instant.nanos then 1000000000 else 0 }

def before (left right : Instant) : Bool :=
  left.seconds < right.seconds ||
    (left.seconds = right.seconds && left.nanos < right.nanos)

/-- The instant some seconds earlier. Going back from a leap second starts at its end. -/
def back (instant : Instant) (seconds : Nat) : Instant :=
  if 1000000000 ≤ instant.nanos then
    { seconds := instant.seconds + 1 - seconds, nanos := instant.nanos - 1000000000 }
  else { instant with seconds := instant.seconds - seconds }

def writePadded (width n : Nat) : List Char :=
  let digits := decimalDigits n
  List.replicate (width - digits.length) '0' ++ digits

/-- Four digits at least; a year outside of 0 to 9999 carries its sign. -/
def writeYear (year : Int) : List Char :=
  if 0 ≤ year ∧ year ≤ 9999 then writePadded 4 year.toNat
  else (if year < 0 then '-' else '+') :: writePadded 4 year.natAbs

def writeDate (date : Date) : List Char :=
  writeYear date.year ++ '-' :: writePadded 2 date.month ++ '-' :: writePadded 2 date.day

/-- The fewest of 3, 6 or 9 places that are exact, or nothing. -/
def writeFraction (nanos : Nat) : List Char :=
  if nanos = 0 then []
  else if nanos % 1000000 = 0 then '.' :: writePadded 3 (nanos / 1000000)
  else if nanos % 1000 = 0 then '.' :: writePadded 6 (nanos / 1000)
  else '.' :: writePadded 9 nanos

def writeClock (time : TimeOfDay) : List Char :=
  writePadded 2 time.hour ++ ':' :: writePadded 2 time.minute ++ ':' :: writePadded 2 time.second

def writeWith (separator : Char) (zone : List Char) (instant : Instant) : List Char :=
  writeDate instant.date ++ separator :: writeClock instant.timeOfDay ++
    writeFraction instant.timeOfDay.nanos ++ zone

def writeCell (instant : Instant) : List Char :=
  instant.writeWith 'T' ['+', '0', '0', ':', '0', '0']

def writeJson (instant : Instant) : List Char :=
  instant.writeWith 'T' ['Z']

def writeMessage (instant : Instant) : List Char :=
  instant.writeWith ' ' [' ', 'U', 'T', 'C']

def writeBound (instant : Instant) : List Char :=
  writeDate instant.date ++ 'T' :: writeClock instant.timeOfDay ++ ['Z']

end Instant

end ODataTable
