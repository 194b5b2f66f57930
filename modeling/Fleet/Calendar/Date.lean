namespace Fleet

/-! # Days, months and years

The calendar as it is used today, for all years: a year is a leap year if four divides it, unless
one hundred does and four hundred does not.  Days are numbered from the first day of 1970.  The
year is thought to begin with March, so that the day a leap year has more is its last.
-/

/-- A day of a month of a year; months and days count from one. -/
structure Date where
  year : Int
  month : Nat
  day : Nat
  deriving DecidableEq, Repr

namespace Date

/-- The years after which the calendar repeats, and the days in them. -/
def cycle : Int × Int := (400, 146097)

/-- The number of the day that starts the year 0 with its March. -/
def firstMarch : Int := -719468

/-- The number of a day.  A month beyond the last is one of a later year, and so is a day beyond the
last of its month. -/
def number (year month day : Int) : Int :=
  let months := year * 12 + (month - 1) - 2
  let y := months / 12
  let m := months % 12
  firstMarch + y * 365 + y / 4 - y / 100 + y / 400 + (153 * m + 2) / 5 + day - 1

/-- The date of a day that is known by its number. -/
def ofNumber (n : Int) : Date :=
  let days := n - firstMarch
  let era := days / cycle.2
  let inEra := days % cycle.2
  let y := (inEra - inEra / 1460 + inEra / 36524 - inEra / 146096) / 365
  let inYear := inEra - (365 * y + y / 4 - y / 100)
  let m := (5 * inYear + 2) / 153
  let month := if m < 10 then m + 3 else m - 9
  { year := era * cycle.1 + y + if month ≤ 2 then 1 else 0
    month := month.toNat
    day := (inYear - (153 * m + 2) / 5 + 1).toNat }

/-- The day of the week; Sunday is zero, and the first day of 1970 was a Thursday. -/
def weekday (n : Int) : Nat := ((n + 4) % 7).toNat

/-- How many days of its year come before a day. -/
def dayOfYear (n : Int) : Nat := (n - number (ofNumber n).year 1 1).toNat

/-- The year whose weeks a day is counted in, and the week, from one.  Weeks start on Monday and
belong to the year that their Thursday is in. -/
def week (n : Int) : Int × Nat :=
  let thursday := n - ((weekday n + 6) % 7 : Nat) + 3
  ((ofNumber thursday).year, dayOfYear thursday / 7 + 1)

end Date

/-- A point in time: whole seconds from the start of 1970, and billionths of a second behind
them. -/
structure Moment where
  seconds : Int
  billionths : Nat := 0
  deriving DecidableEq, Repr

namespace Moment

/-- What programs are told when they ask for the time. -/
def now : Moment := ⟨1767225600, 0⟩

/-- The seconds of a day. -/
def daySeconds : Int := 86400

/-- The number of the day, in a place where clocks are ahead by so many seconds. -/
def day (m : Moment) (ahead : Int) : Int := (m.seconds + ahead) / daySeconds

/-- How many seconds of the day have passed. -/
def inDay (m : Moment) (ahead : Int) : Nat := ((m.seconds + ahead) % daySeconds).toNat

end Moment

/-- The names of the months. -/
def monthNames : List String :=
  ["January", "February", "March", "April", "May", "June", "July", "August", "September",
    "October", "November", "December"]

/-- The names of the days of the week. -/
def weekdayNames : List String :=
  ["Sunday", "Monday", "Tuesday", "Wednesday", "Thursday", "Friday", "Saturday"]

end Fleet
