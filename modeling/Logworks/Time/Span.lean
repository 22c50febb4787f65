import Logworks.Json.Reader

/-!
# Spans of time

A span is a number of seconds of sixty-four bits and a part of a second in nanoseconds. This file
fixes

* `Span.ofParts?` -- nanoseconds past a second carry over, unless the seconds overflow;
* `Span.text` -- a span in its largest whole unit, with the fraction it needs and no more;
* how a span is written in a document, and read from one.
-/

namespace Logworks.Time

open Logworks.Text Logworks.Json

structure Span where
  seconds : Nat
  nanos : Nat
  seconds_lt : seconds < UInt64.size := by decide
  nanos_lt : nanos < 1000000000 := by decide
  deriving DecidableEq, Repr

namespace Span

/-- Seconds and nanoseconds, the latter in any number. -/
def ofParts? (seconds nanos : Nat) : Option Span :=
  let total := seconds + nanos / 1000000000
  if h : total < UInt64.size then
    some ⟨total, nanos % 1000000000, h, Nat.mod_lt _ (by decide)⟩
  else none

def ofMillis? (n : Nat) : Option Span :=
  ofParts? (n / 1000) (n % 1000 * 1000000)

def isZero (s : Span) : Bool := s.seconds == 0 && s.nanos == 0

/-- The whole microseconds of a span. -/
def micros (s : Span) : Nat := s.seconds * 1000000 + s.nanos / 1000

/-- A whole part and a fraction in a number of places, without the zeros at its end. -/
def decimalText (whole fraction places : Nat) (unit : String) : List Char :=
  let ds := ((zeroPadded places fraction).reverse.dropWhile (· == '0')).reverse
  digits whole ++ (if fraction = 0 then [] else '.' :: ds) ++ unit.toList

/-- The text of a span, in seconds, milliseconds, microseconds or nanoseconds. -/
def text (s : Span) : String :=
  String.ofList <|
    if 0 < s.seconds then decimalText s.seconds s.nanos 9 "s"
    else if 1000000 ≤ s.nanos then decimalText (s.nanos / 1000000) (s.nanos % 1000000) 6 "ms"
    else if 1000 ≤ s.nanos then decimalText (s.nanos / 1000) (s.nanos % 1000) 3 "µs"
    else decimalText s.nanos 0 0 "ns"

def toValue (s : Span) : Value :=
  .object [("secs", .whole s.seconds), ("nanos", .whole s.nanos)]

/-- Both parts have to be there, and nothing else. -/
def reader : Reader Span :=
  (Reader.record "Duration" ⟨true, true⟩
    [⟨"secs", Reader.word64 "u64"⟩, ⟨"nanos", Reader.natural (UInt32.size - 1) "u32"⟩]).bind
    fun fields =>
      match ofParts? ((fields.lookup "secs").getD 0) ((fields.lookup "nanos").getD 0) with
      | some s => Reader.pure s
      | none => Reader.fail (.unfit "overflow deserializing Duration")

end Span

end Logworks.Time
