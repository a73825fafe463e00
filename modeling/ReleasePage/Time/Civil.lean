import ReleasePage.Number.Rounding

/-!
# Civil dates

Dates of the Gregorian calendar, extended without end in both directions. A date
is turned into the number of days since the start of year zero and back.
-/

namespace ReleasePage.Time

/-- A date. -/
structure CivilDate where
  /-- The year; the year before year one is year zero. -/
  year : Int
  /-- The month, from one to twelve. -/
  month : Nat
  /-- The day of the month, from one on. -/
  day : Nat
  deriving Repr, DecidableEq

/-- The year has a twenty-ninth of February. -/
def isLeap (year : Int) : Bool := year % 4 == 0 && (year % 100 != 0 || year % 400 == 0)

/-- The lengths of the months of a year. -/
def monthLengths (year : Int) : List Nat :=
  [31, if isLeap year then 29 else 28, 31, 30, 31, 30, 31, 31, 30, 31, 30, 31]

/-- The length of a month, zero if there is no such month. -/
def monthLength (year : Int) (month : Nat) : Nat :=
  if month = 0 then 0 else (monthLengths year).getD (month - 1) 0

/-- The date exists. -/
def CivilDate.valid (date : CivilDate) : Bool :=
  1 ≤ date.day && date.day ≤ monthLength date.year date.month

/-- The number of days between the start of year zero and the start of a
year. -/
def daysBeforeYear (year : Int) : Int :=
  365 * year + (year + 3) / 4 - (year + 99) / 100 + (year + 399) / 400

/-- The number of days of a year before one of its months. -/
def daysBeforeMonth (year : Int) (month : Nat) : Nat :=
  ((monthLengths year).take (month - 1)).foldl Nat.add 0

/-- The number of days between the start of year zero and a date. -/
def CivilDate.toDays (date : CivilDate) : Int :=
  daysBeforeYear date.year + daysBeforeMonth date.year date.month + date.day - 1

/-- The year that holds a day. The average length of a year gives it to within
one year. -/
def yearOfDay (days : Int) : Int :=
  let guess := days * 400 / 146097
  if days < daysBeforeYear guess then guess - 1
  else if daysBeforeYear (guess + 1) ≤ days then guess + 1
  else guess

/-- The month, counted from `month`, and the day in it of a day counted from
zero over months of the given lengths. -/
def monthOfDay (month : Nat) : List Nat → Nat → Nat × Nat
  | [], day => (month, day + 1)
  | length :: lengths, day =>
    if day < length then (month, day + 1) else monthOfDay (month + 1) lengths (day - length)

/-- The date a number of days after the start of year zero. -/
def CivilDate.ofDays (days : Int) : CivilDate :=
  let year := yearOfDay days
  let (month, day) := monthOfDay 1 (monthLengths year) (days - daysBeforeYear year).toNat
  ⟨year, month, day⟩

/-- The short English names of the months. -/
def monthNames : List String :=
  ["Jan", "Feb", "Mar", "Apr", "May", "Jun", "Jul", "Aug", "Sep", "Oct", "Nov", "Dec"]

/-- A year in at least four digits, with a sign outside of `0` to `9999`. -/
def yearText (year : Int) : String :=
  if year < 0 then "-" ++ Number.padded 4 year.natAbs
  else if 9999 < year then "+" ++ Nat.repr year.natAbs
  else Number.padded 4 year.natAbs

/-- A date as day, short name of the month and year. -/
def CivilDate.text (date : CivilDate) : String :=
  Nat.repr date.day ++ " " ++ monthNames.getD (date.month - 1) "" ++ " " ++ yearText date.year

end ReleasePage.Time
