/-!
# The civil calendar

Days are counted from 1 January 1970. The calendar repeats after 400 years of 146097 days, so a
count is split into its cycle and the day within it, and the day within its year is read off from
the days before each month. This file fixes

* `Date.ofDayCount` -- the date of a day, for days before 1970 as well;
* the day of the week and of the year, and the week by three rules: weeks that start on Sunday,
  weeks that start on Monday, and weeks that belong to the year of their Thursday.
-/

namespace Logworks.Time

structure Date where
  year : Int
  month : Nat
  day : Nat
  /-- Days since 1 January 1970. -/
  count : Int
  deriving DecidableEq, Repr

def isLeap (year : Int) : Bool :=
  year % 4 == 0 && (year % 100 != 0 || year % 400 == 0)

/-- The number of days from 1 January 1970 to 1 January of a year. -/
def daysBeforeYear (year : Int) : Int :=
  let y := year - 1
  365 * (year - 1970) + (Int.fdiv y 4 - 492) - (Int.fdiv y 100 - 19) + (Int.fdiv y 400 - 4)

/-- The lengths of the months of a year. -/
def monthLengths (leap : Bool) : List Nat :=
  [31, if leap then 29 else 28, 31, 30, 31, 30, 31, 31, 30, 31, 30, 31]

/-- The month and its day, from a day of the year counted from 0. -/
def monthAndDay : List Nat → Nat → Nat → Nat × Nat
  | [], month, n => (month, n + 1)
  | len :: rest, month, n => if n < len then (month, n + 1) else monthAndDay rest (month + 1) (n - len)

namespace Date

/-- The year a day lies in: the estimate by mean years is off by at most one. -/
def yearOfDayCount (days : Int) : Int :=
  let guess := 1970 + Int.fdiv (days * 400) 146097
  if days < daysBeforeYear guess then guess - 1
  else if daysBeforeYear (guess + 1) ≤ days then guess + 1
  else guess

def ofDayCount (days : Int) : Date :=
  let year := yearOfDayCount days
  let n := (days - daysBeforeYear year).toNat
  let (month, day) := monthAndDay (monthLengths (isLeap year)) 1 n
  ⟨year, month, day, days⟩

/-- The day of the year, from 1. -/
def ordinal (d : Date) : Nat := (d.count - daysBeforeYear d.year).toNat + 1

/-- The day of the week, Monday 0 to Sunday 6: 1 January 1970 was a Thursday. -/
def weekday (d : Date) : Nat := ((d.count + 3) % 7).toNat

/-- The day of the week, Sunday 0 to Saturday 6. -/
def weekdayFromSunday (d : Date) : Nat := (d.weekday + 1) % 7

def quarter (d : Date) : Nat := (d.month - 1) / 3 + 1

/-- The week of the year, where week 1 starts with the first Sunday. -/
def weekFromSunday (d : Date) : Nat := (d.ordinal + 6 - d.weekdayFromSunday) / 7

/-- The week of the year, where week 1 starts with the first Monday. -/
def weekFromMonday (d : Date) : Nat := (d.ordinal + 6 - d.weekday) / 7

/-- The Thursday of the week (from Monday) a day lies in. -/
def thursday (d : Date) : Date := ofDayCount (d.count + 3 - d.weekday)

/-- The year whose week a day lies in: that of the week's Thursday. -/
def weekYear (d : Date) : Int := d.thursday.year

/-- The week of that year, from 1. -/
def week (d : Date) : Nat := (d.thursday.ordinal - 1) / 7 + 1

end Date

/-- The days of the week, Monday first. -/
def weekdayNames : List String :=
  ["Monday", "Tuesday", "Wednesday", "Thursday", "Friday", "Saturday", "Sunday"]

def monthNames : List String :=
  ["January", "February", "March", "April", "May", "June", "July", "August", "September",
   "October", "November", "December"]

def Date.weekdayName (d : Date) : String := weekdayNames.getD d.weekday ""

def Date.monthName (d : Date) : String := monthNames.getD (d.month - 1) ""

example : Date.ofDayCount 0 = ⟨1970, 1, 1, 0⟩ := by decide
example : Date.ofDayCount (-1) = ⟨1969, 12, 31, -1⟩ := by decide
example : Date.ofDayCount 11016 = ⟨2000, 2, 29, 11016⟩ := by decide

end Logworks.Time
