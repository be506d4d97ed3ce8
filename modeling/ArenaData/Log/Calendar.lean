import ArenaData.Text.Basic

/-!
# Calendar

The time of a log record is a number of milliseconds since the start of 1970, in Greenwich time. Its
date follows from the number of days by the rules of the Gregorian calendar, which repeat every 400
years.
-/

namespace ArenaData.Log

/-- A time, taken apart. -/
structure Moment where
  /-- The year. -/
  year : Int
  /-- The month, from 1. -/
  month : Nat
  /-- The day of the month, from 1. -/
  day : Nat
  /-- The hour. -/
  hour : Nat
  /-- The minute. -/
  minute : Nat
  /-- The second. -/
  second : Nat
  /-- The day of the week, from Sunday as 0. -/
  weekday : Nat
  /-- The day of the year, from 0. -/
  yearDay : Nat
  /-- The number of seconds since the start of 1970. -/
  seconds : Int
  deriving DecidableEq, Repr

namespace Moment

/-- The year has a leap day. -/
def isLeap (year : Int) : Bool := (year % 4 == 0 && year % 100 != 0) || year % 400 == 0

/-- The days of a year before each of its months. -/
def daysBefore (year : Int) (month : Nat) : Nat :=
  let plain := [0, 31, 59, 90, 120, 151, 181, 212, 243, 273, 304, 334]
  (plain[month - 1]?).getD 0 + (if isLeap year && 2 < month then 1 else 0)

/-- The year, month and day of a number of days since the start of 1970. Years are counted from
March, so that the leap day is the last one of its year. -/
def civil (days : Int) : Int × Nat × Nat :=
  let shifted := days + 719468
  let era := shifted / 146097
  let dayOfEra := (shifted % 146097).toNat
  let yearOfEra := (dayOfEra - dayOfEra / 1460 + dayOfEra / 36524 - dayOfEra / 146096) / 365
  let dayOfYear := dayOfEra - (365 * yearOfEra + yearOfEra / 4 - yearOfEra / 100)
  let fromMarch := (5 * dayOfYear + 2) / 153
  let day := dayOfYear - (153 * fromMarch + 2) / 5 + 1
  let month := if fromMarch < 10 then fromMarch + 3 else fromMarch - 9
  let year := era * 400 + yearOfEra + (if month ≤ 2 then 1 else 0)
  (year, month, day)

/-- The moment of a number of seconds since the start of 1970. -/
def ofSeconds (seconds : Int) : Moment :=
  let days := seconds / 86400
  let rest := (seconds % 86400).toNat
  let (year, month, day) := civil days
  { year, month, day
    hour := rest / 3600
    minute := rest / 60 % 60
    second := rest % 60
    weekday := ((days + 4) % 7).toNat
    yearDay := daysBefore year month + (day - 1)
    seconds }

/-- The names of the days of the week. -/
def weekdayNames : List Text := [
  "Sunday".toList, "Monday".toList, "Tuesday".toList, "Wednesday".toList, "Thursday".toList,
  "Friday".toList, "Saturday".toList]

/-- The names of the months. -/
def monthNames : List Text := [
  "January".toList, "February".toList, "March".toList, "April".toList, "May".toList,
  "June".toList, "July".toList, "August".toList, "September".toList, "October".toList,
  "November".toList, "December".toList]

/-- The name of the day of the week. -/
def weekdayName (m : Moment) : Text := (weekdayNames[m.weekday]?).getD []

/-- The name of the month. -/
def monthName (m : Moment) : Text := (monthNames[m.month - 1]?).getD []

/-- The hour on a dial of twelve. -/
def dialHour (m : Moment) : Nat := (m.hour + 11) % 12 + 1

/-- The week of the year, counted from the first `first`, which is a day of the week. -/
def week (m : Moment) (first : Nat) : Nat := (m.yearDay + 7 - (m.weekday + 7 - first) % 7) / 7

/-- The number of days of a year. -/
def yearLength (year : Int) : Nat := if isLeap year then 366 else 365

/-- The year after a year. Years are counted in 32 bits, and the first one follows the last. -/
def nextYear (year : Int) : Int := (year + 1).bmod 0x100000000

/-- The year and week by the rule that a week belongs to the year that its Thursday is in. -/
def thursdayWeek (m : Moment) : Int × Nat :=
  let thursday : Int := (m.yearDay : Int) + 3 - (((m.weekday + 6) % 7 : Nat) : Int)
  if thursday < 0 then (m.year - 1, (thursday + yearLength (m.year - 1)).toNat / 7 + 1)
  else if yearLength m.year ≤ thursday then
    (nextYear m.year, (thursday - yearLength m.year).toNat / 7 + 1)
  else (m.year, thursday.toNat / 7 + 1)

/-- A number in two places. -/
def two (n : Nat) : Text := Text.padLeft '0' 2 (Text.ofNat n)

/-- A number in two places, filled up with a blank. -/
def blankTwo (n : Nat) : Text := Text.padLeft ' ' 2 (Text.ofNat n)

/-- The time of day in two-digit numbers with colons. -/
def clock (m : Moment) : Text := two m.hour ++ ':' :: (two m.minute ++ ':' :: two m.second)

/-- The date with the month in front. -/
def shortDate (m : Moment) : Text :=
  two m.month ++ '/' :: (two m.day ++ '/' :: two (m.year % 100).toNat)

/-- The half of the day. -/
def half (m : Moment) : Text := (if m.hour < 12 then "AM" else "PM").toList

end Moment

end ArenaData.Log
