/-! Dates of the proleptic Gregorian calendar, and their count of days. -/

set_option autoImplicit false

namespace ODataTable

structure Date where
  year : Int
  month : Nat
  day : Nat
  deriving DecidableEq, Repr

namespace Date

def isLeapYear (year : Int) : Bool :=
  year % 4 = 0 && (year % 100 ≠ 0 || year % 400 = 0)

def monthLengths (year : Int) : List Nat :=
  [31, if isLeapYear year then 29 else 28, 31, 30, 31, 30, 31, 31, 30, 31, 30, 31]

def leastYear : Int := -262143

def greatestYear : Int := 262142

/-- Whether the calendar has the date and the year is within range. -/
def isValid (date : Date) : Bool :=
  leastYear ≤ date.year && date.year ≤ greatestYear &&
    1 ≤ date.month && date.month ≤ 12 && 1 ≤ date.day &&
    date.day ≤ (monthLengths date.year).getD (date.month - 1) 0

def daysBeforeYear (year : Int) : Int :=
  365 * (year - 1) + (year - 1) / 4 - (year - 1) / 100 + (year - 1) / 400

def daysBeforeMonth (year : Int) (month : Nat) : Nat :=
  ((monthLengths year).take (month - 1)).foldl (· + ·) 0

def daysBeforeEpoch : Int := 719162

/-- The number of days since the first of January 1970. -/
def dayNumber (date : Date) : Int :=
  daysBeforeYear date.year + daysBeforeMonth date.year date.month + date.day - 1 -
    daysBeforeEpoch

def splitDays : List Nat → Nat → Nat × Nat
  | [], days => (0, days)
  | length :: rest, days =>
    if days < length then (0, days)
    else
      let (month, day) := splitDays rest (days - length)
      (month + 1, day)

/-- The year that holds a day counted from the first of January of year 1, and the day of that
year counted from zero. Years come in cycles of 400, 100, 4 and 1. -/
def splitYears (days : Int) : Int × Nat :=
  let inEra := days % 146097
  let century := min 3 (inEra / 36524)
  let inCentury := inEra - century * 36524
  let quad := inCentury / 1461
  let inQuad := inCentury % 1461
  let single := min 3 (inQuad / 365)
  (days / 146097 * 400 + century * 100 + quad * 4 + single + 1, (inQuad - single * 365).toNat)

def ofDayNumber (number : Int) : Date :=
  let (year, ordinal) := splitYears (number + daysBeforeEpoch)
  let (month, day) := splitDays (monthLengths year) ordinal
  { year, month := month + 1, day := day + 1 }

end Date

end ODataTable
