import Logworks.Time.Instant

/-!
# Time directives

A directive is a percent sign, a run of modifiers and one character; it stands for a part of an
instant, shown in a fixed way. This file fixes

* `Item` -- the parts an instant has and how each is shown;
* `Directive.items?` -- the items a directive stands for: one, or several for a compound such as
  `%F`. A fill (`-` none, `0` zeros, `_` blanks) may stand before a single number only;
* `Directive.render` -- the text a directive has at an instant.

Two decimal places are taken modulo 256, so a century outside 0 to 99 shows a character past `9`
for its tens: the year 10000 has the century `:0`.

NOT here: time zones. Instants are shown in universal time, so an offset is `+00:00` and the name of
the zone is that of universal time.
-/

namespace Logworks.Time

open Logworks.Text

/-- The numbers an instant has. -/
inductive Number where
  | year | century | yearOfCentury | weekYear | weekYearOfCentury | quarter | month | day
  | weekFromSunday | weekFromMonday | week | weekdayFromSunday | weekdayFromMonday | ordinal
  | hour | hour12 | minute | second | nanosecond | timestamp
  deriving DecidableEq, Repr

/-- What a directive shows. -/
inductive Item where
  | number (n : Number) (fill : Fill)
  | literal (text : String)
  | monthShort | monthLong | weekdayShort | weekdayLong
  /-- Before or after noon, in capital or small letters. -/
  | noon (capital : Bool)
  /-- The fraction in as many places as it needs, after a point; nothing if there is none. -/
  | fraction
  /-- The fraction cut to a number of places. -/
  | fractionIn (places : Nat) (point : Bool)
  /-- The offset from universal time, which is none, with the parts shown. -/
  | offset (text : String)
  | full
  /-- An item that can be read but not shown. -/
  | silent
  deriving DecidableEq, Repr

namespace Item

/-- One decimal place. -/
def onePlace (v : Int) : List Char :=
  [Char.ofNat (48 + ((v % 256).toNat % 10))]

/-- Two decimal places of a number taken modulo 256. -/
def twoPlaces (fill : Fill) (v : Int) : List Char :=
  let n := (v % 256).toNat
  let tens :=
    match n / 10, fill with
    | 0, .none => []
    | 0, .blanks => [' ']
    | t, _ => [Char.ofNat (48 + t)]
  tens ++ [Char.ofNat (48 + n % 10)]

/-- A year with its fill: a sign only outside 0 to 9999. -/
def year (fill : Fill) (y : Int) : List Char :=
  Instant.yearText fill y

def numberText (n : Number) (fill : Fill) (t : Instant) : List Char :=
  let d := t.date
  match n with
  | .year => year fill d.year
  | .century => twoPlaces fill (Int.fdiv d.year 100)
  | .yearOfCentury => twoPlaces fill (Int.fmod d.year 100)
  | .weekYear => year fill d.weekYear
  | .weekYearOfCentury => twoPlaces fill (Int.fmod d.weekYear 100)
  | .quarter => onePlace d.quarter
  | .month => twoPlaces fill d.month
  | .day => twoPlaces fill d.day
  | .weekFromSunday => twoPlaces fill d.weekFromSunday
  | .weekFromMonday => twoPlaces fill d.weekFromMonday
  | .week => twoPlaces fill d.week
  | .weekdayFromSunday => onePlace d.weekdayFromSunday
  | .weekdayFromMonday => onePlace (d.weekday + 1)
  | .ordinal => signed fill false 3 d.ordinal
  | .hour => twoPlaces fill t.hour
  | .hour12 => twoPlaces fill t.hour12
  | .minute => twoPlaces fill t.minute
  | .second => twoPlaces fill t.second
  | .nanosecond => signed fill false 9 t.fraction
  | .timestamp => signed fill false 9 t.seconds

def render (t : Instant) : Item → List Char
  | number n fill => numberText n fill t
  | literal text => text.toList
  | monthShort => t.date.monthName.toList.take 3
  | monthLong => t.date.monthName.toList
  | weekdayShort => t.date.weekdayName.toList.take 3
  | weekdayLong => t.date.weekdayName.toList
  | noon true => if t.isAfternoon then "PM".toList else "AM".toList
  | noon false => if t.isAfternoon then "pm".toList else "am".toList
  | fraction => t.shortFraction
  | fractionIn places point =>
    (if point then ['.'] else []) ++ zeroPadded places (t.fraction / Nat.pow 10 (9 - places))
  | offset text => text.toList
  | full => t.offsetText
  | silent => []

end Item

namespace Directive

/-- The number a letter stands for, with the fill it has by itself. -/
def number? : Char → Option (Number × Fill)
  | 'C' => some (.century, .zeros)
  | 'd' => some (.day, .zeros)
  | 'e' => some (.day, .blanks)
  | 'f' => some (.nanosecond, .zeros)
  | 'G' => some (.weekYear, .zeros)
  | 'g' => some (.weekYearOfCentury, .zeros)
  | 'H' => some (.hour, .zeros)
  | 'I' => some (.hour12, .zeros)
  | 'j' => some (.ordinal, .zeros)
  | 'k' => some (.hour, .blanks)
  | 'l' => some (.hour12, .blanks)
  | 'M' => some (.minute, .zeros)
  | 'm' => some (.month, .zeros)
  | 'q' => some (.quarter, .none)
  | 'S' => some (.second, .zeros)
  | 's' => some (.timestamp, .none)
  | 'U' => some (.weekFromSunday, .zeros)
  | 'u' => some (.weekdayFromMonday, .none)
  | 'V' => some (.week, .zeros)
  | 'W' => some (.weekFromMonday, .zeros)
  | 'w' => some (.weekdayFromSunday, .none)
  | 'Y' => some (.year, .zeros)
  | 'y' => some (.yearOfCentury, .zeros)
  | _ => none

/-- The items of the directives without modifiers that are no single number. -/
def plainItems? : Char → Option (List Item)
  | 'A' => some [.weekdayLong]
  | 'a' => some [.weekdayShort]
  | 'B' => some [.monthLong]
  | 'b' => some [.monthShort]
  | 'h' => some [.monthShort]
  | 'c' => some [.weekdayShort, .literal " ", .monthShort, .literal " ", .number .day .blanks,
      .literal " ", .number .hour .zeros, .literal ":", .number .minute .zeros, .literal ":",
      .number .second .zeros, .literal " ", .number .year .zeros]
  | 'D' => some monthDayYear
  | 'x' => some monthDayYear
  | 'F' => some [.number .year .zeros, .literal "-", .number .month .zeros, .literal "-",
      .number .day .zeros]
  | 'n' => some [.literal "\n"]
  | 'P' => some [.noon false]
  | 'p' => some [.noon true]
  | 'R' => some [.number .hour .zeros, .literal ":", .number .minute .zeros]
  | 'r' => some [.number .hour12 .zeros, .literal ":", .number .minute .zeros, .literal ":",
      .number .second .zeros, .literal " ", .noon true]
  | 'T' => some hourMinuteSecond
  | 'X' => some hourMinuteSecond
  | 't' => some [.literal "\t"]
  | 'v' => some [.number .day .blanks, .literal "-", .monthShort, .literal "-",
      .number .year .zeros]
  | 'Z' => some [.offset "+00:00"]
  | 'z' => some [.offset "+0000"]
  | '+' => some [.full]
  | '%' => some [.literal "%"]
  | _ => none
where
  monthDayYear : List Item :=
    [.number .month .zeros, .literal "/", .number .day .zeros, .literal "/",
      .number .yearOfCentury .zeros]
  hourMinuteSecond : List Item :=
    [.number .hour .zeros, .literal ":", .number .minute .zeros, .literal ":",
      .number .second .zeros]

/-- The fill a modifier asks for. -/
def fill? : Char → Option Fill
  | '-' => some .none
  | '0' => some .zeros
  | '_' => some .blanks
  | _ => none

/-- The directives with modifiers of their own, by the characters after the percent sign. -/
def longItems : List (List Char × Item) :=
  [(['#', 'z'], .silent),
   ([':', 'z'], .offset "+00:00"), ([':', ':', 'z'], .offset "+00:00:00"),
   ([':', ':', ':', 'z'], .offset "+00"),
   (['.', 'f'], .fraction), (['.', '3', 'f'], .fractionIn 3 true),
   (['.', '6', 'f'], .fractionIn 6 true), (['.', '9', 'f'], .fractionIn 9 true),
   (['3', 'f'], .fractionIn 3 false), (['6', 'f'], .fractionIn 6 false),
   (['9', 'f'], .fractionIn 9 false)]

/-- The items of a directive, given by the characters after its percent sign. -/
def items? (cs : List Char) : Option (List Item) :=
  match longItems.lookup cs with
  | some item => some [item]
  | none =>
    match cs with
    | [c] =>
      match number? c with
      | some (n, fill) => some [.number n fill]
      | none => plainItems? c
    | [m, c] =>
      match fill? m, number? c with
      | some fill, some (n, _) => some [.number n fill]
      | _, _ => none
    | _ => none

/-- Whether a directive stands for something. -/
def isKnown (spec : List Char) : Bool :=
  (items? spec.tail).isSome

/-- The text of a directive, percent sign included, at an instant. -/
def render (spec : List Char) (t : Instant) : List Char :=
  ((items? spec.tail).getD []).flatMap (Item.render t)

end Directive

end Logworks.Time
