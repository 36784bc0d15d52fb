/-!
# Hours of the calendar

The Gregorian calendar, in both directions of time.  Years are counted from the first of
March, so that the day leap years add is the last one of its year; 400 such years always
have the same number of days.
-/
namespace ObjectRelay

def padded (width n : Nat) : String :=
  let digits := Nat.toDigits 10 n
  String.ofList (List.replicate (width - digits.length) '0' ++ digits)

structure CalendarHour where
  year : Int
  month : Nat
  day : Nat
  hour : Nat
deriving DecidableEq, Repr

namespace CalendarHour

def cycleDays : Nat := 146097

/-- How many days before 1970 the first of March of the year 0 was. -/
def epochOffset : Nat := 719468

/-- The full years before a day of the 400, both counted from 0.  Every 4, 100 and 400
years the count of days is one off 365 a year. -/
def yearOfCycle (day : Nat) : Nat :=
  (day + day / 36524 - day / 1460 - day / (cycleDays - 1)) / 365

def firstDay (year : Nat) : Nat := 365 * year + year / 4 - year / 100

/-- The hour of a time, in seconds since 1970 began. -/
def ofEpochSeconds (seconds : Int) : CalendarHour :=
  let days := seconds / 86400 + epochOffset
  let day := (days % cycleDays).toNat
  let year := yearOfCycle day
  let dayOfYear := day - firstDay year
  let march := (5 * dayOfYear + 2) / 153
  let month := if march < 10 then march + 3 else march - 9
  { year := days / cycleDays * 400 + year + (if month ≤ 2 then 1 else 0)
    month
    day := dayOfYear - (153 * march + 2) / 5 + 1
    hour := (seconds % 86400 / 3600).toNat }

/-- A year has four digits, and a sign if that is not enough. -/
def yearText (year : Int) : String :=
  if 0 ≤ year && year ≤ 9999 then padded 4 year.toNat
  else (if year < 0 then "-" else "+") ++ padded 4 year.natAbs

/-- The hour as a path, from the year down. -/
def path (h : CalendarHour) : String :=
  yearText h.year ++ "/" ++ padded 2 h.month ++ "/" ++ padded 2 h.day ++ "/" ++ padded 2 h.hour

end CalendarHour

end ObjectRelay
