import Logworks.Time.Calendar
import Logworks.Text.Decimal

/-!
# Instants

A point in time: whole seconds since 1 January 1970, and nanoseconds. A second that is inserted
at the end of a minute is told by nanoseconds of a thousand million or more: the clock then shows
the second 60.
-/

namespace Logworks.Time

open Logworks.Text

structure Instant where
  seconds : Int
  nanos : Nat := 0
  deriving DecidableEq, Repr

namespace Instant

def date (t : Instant) : Date := Date.ofDayCount (Int.fdiv t.seconds 86400)

def secondOfDay (t : Instant) : Nat := (Int.fmod t.seconds 86400).toNat

def hour (t : Instant) : Nat := t.secondOfDay / 3600

/-- The hour on a clock of twelve hours. -/
def hour12 (t : Instant) : Nat := if t.hour % 12 = 0 then 12 else t.hour % 12

def isAfternoon (t : Instant) : Bool := 12 ≤ t.hour

def minute (t : Instant) : Nat := t.secondOfDay / 60 % 60

/-- The second shown, 60 in an inserted second. -/
def second (t : Instant) : Nat := t.secondOfDay % 60 + t.nanos / 1000000000

/-- The nanoseconds within the second shown. -/
def fraction (t : Instant) : Nat := t.nanos % 1000000000

/-- The fraction in the first of 0, 3, 6 and 9 places that shows it whole. -/
def shortFraction (t : Instant) : List Char :=
  let n := t.fraction
  if n = 0 then []
  else if n % 1000000 = 0 then '.' :: zeroPadded 3 (n / 1000000)
  else if n % 1000 = 0 then '.' :: zeroPadded 6 (n / 1000)
  else '.' :: zeroPadded 9 n

/-- A year in four places; one outside 0 to 9999 with its sign. -/
def yearText (fill : Fill) (year : Int) : List Char :=
  if 1000 ≤ year ∧ year ≤ 9999 then digits year.toNat
  else if 0 ≤ year ∧ year < 1000 then signed fill false 4 year
  else signed fill true 5 year

/-- Date and time to the second, as in `2025-01-08T10:30:45`. -/
def dateTimeText (t : Instant) : List Char :=
  let d := t.date
  yearText .zeros d.year ++ '-' :: zeroPadded 2 d.month ++ '-' :: zeroPadded 2 d.day ++
    'T' :: zeroPadded 2 t.hour ++ ':' :: zeroPadded 2 t.minute ++ ':' :: zeroPadded 2 t.second

/-- The instant with its offset, which is none. -/
def offsetText (t : Instant) : List Char :=
  t.dateTimeText ++ t.shortFraction ++ "+00:00".toList

/-- The instant to the millisecond, marked as universal time. -/
def millisecondText (t : Instant) : List Char :=
  t.dateTimeText ++ '.' :: zeroPadded 3 (t.fraction / 1000000) ++ ['Z']

/-- The instant to the second, marked as universal time. -/
def secondText (t : Instant) : List Char :=
  t.dateTimeText ++ ['Z']

end Instant

end Logworks.Time
