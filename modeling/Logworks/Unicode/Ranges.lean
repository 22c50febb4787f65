/-!
# Sets of characters as ranges

A set of code points is a list of ranges, ascending, with a gap between one and the next. This
file fixes

* `Ranges` with union, complement, intersection and difference; surrogates are no characters, so
  no set ends in them;
* `Ranges.ofText` -- the compact text the tables are written in: numbers in hexadecimal, each the
  gap since the last range, with the length of the range less one behind a plus sign.
-/

namespace Logworks.Unicode

/-- The last code point. -/
def lastPoint : Nat := 0x10FFFF

/-- Ranges of code points, ends included. -/
abbrev Ranges := List (Nat × Nat)

namespace Ranges

/-- Ranges ascending by their starts, with those that touch made one. -/
def joinSorted : Ranges → Ranges
  | [] => []
  | [r] => [r]
  | r :: s :: rest =>
    if s.1 ≤ r.2 + 1 then joinSorted ((r.1, max r.2 s.2) :: rest) else r :: joinSorted (s :: rest)
termination_by rs => rs.length

/-- Ranges in any order, brought to their ascending form; empty ones go. -/
def normal (rs : Ranges) : Ranges :=
  joinSorted ((rs.filter fun r => r.1 ≤ r.2).mergeSort fun a b => a.1 ≤ b.1)

def union (a b : Ranges) : Ranges := normal (a ++ b)

/-- What the ascending ranges leave out from a point on. -/
def gapsFrom : Nat → Ranges → Ranges
  | start, [] => if start ≤ lastPoint then [(start, lastPoint)] else []
  | start, r :: rs =>
    if start < r.1 then (start, r.1 - 1) :: gapsFrom (r.2 + 1) rs else gapsFrom (r.2 + 1) rs

/-- The last code point before the surrogates and the first one behind them. -/
def beforeSurrogates : Nat := 0xD7FF
def behindSurrogates : Nat := 0xE000

/-- A range without the surrogates at its ends; one that holds nothing else is gone. -/
def trimSurrogates (r : Nat × Nat) : Option (Nat × Nat) :=
  let lo := if beforeSurrogates < r.1 && r.1 < behindSurrogates then behindSurrogates else r.1
  let hi := if beforeSurrogates < r.2 && r.2 < behindSurrogates then beforeSurrogates else r.2
  if lo ≤ hi then some (lo, hi) else none

/-- All characters outside a set. -/
def complement (rs : Ranges) : Ranges := (gapsFrom 0 (normal rs)).filterMap trimSurrogates

/-- The characters of two ascending sets. -/
def inter : Ranges → Ranges → Ranges
  | [], _ => []
  | _ :: _, [] => []
  | a :: as, b :: bs =>
    let rest := if a.2 < b.2 then inter as (b :: bs) else inter (a :: as) bs
    if max a.1 b.1 ≤ min a.2 b.2 then (max a.1 b.1, min a.2 b.2) :: rest else rest
termination_by a b => a.length + b.length

def diff (a b : Ranges) : Ranges := inter (normal a) (complement b)

def symmDiff (a b : Ranges) : Ranges := union (diff a b) (diff b a)

/-- Whether a range ends before the surrogates and the next starts right behind them. -/
def meetAtSurrogates : Ranges → Bool
  | r :: s :: rest =>
    (r.2 == beforeSurrogates && s.1 == behindSurrogates) || meetAtSurrogates (s :: rest)
  | _ => false

/-- What a negated set stands for: the characters outside it. The step from one range to the next
passes over the surrogates, and where two ranges meet there the step from the one to the other
takes the two characters beside the surrogates for the gap. -/
def negation (rs : Ranges) : Ranges :=
  let whole := normal rs
  if meetAtSurrogates whole then
    union (complement whole)
      [(beforeSurrogates, beforeSurrogates), (behindSurrogates, behindSurrogates)]
  else complement whole

/-! ## Tables -/

def hexValue (c : Char) : Nat :=
  if c.isDigit then c.toNat - 48 else c.toNat - 87

/-- Reads a table: the point behind the last range, the two numbers of the range being read, and
whether its length is being read. -/
def readTable : List Char → (cursor gap length : Nat) → Bool → Ranges
  | [], cursor, gap, length, _ => [(cursor + gap, cursor + gap + length)]
  | c :: cs, cursor, gap, length, inLength =>
    if c = ' ' then
      (cursor + gap, cursor + gap + length) :: readTable cs (cursor + gap + length + 1) 0 0 false
    else if c = '+' then readTable cs cursor gap 0 true
    else if inLength then readTable cs cursor gap (16 * length + hexValue c) true
    else readTable cs cursor (16 * gap + hexValue c) length false

def ofText (s : String) : Ranges :=
  if s.isEmpty then [] else readTable s.toList 0 0 0 false

/-- A table over several lines. -/
def ofLines (ls : List String) : Ranges := ofText (" ".intercalate ls)

example : ofText "41+19 6 1f+2" = [(0x41, 0x5a), (0x61, 0x61), (0x81, 0x83)] := by decide +kernel

end Ranges

/-- Ranges laid out for search by halves. -/
structure Lookup where
  rows : Array (Nat × Nat)

namespace Lookup

def ofRanges (rs : Ranges) : Lookup := ⟨rs.toArray⟩

/-- Looks in the rows from `lo` to before `hi`, halving them `fuel` times at most. -/
def search (t : Lookup) (n : Nat) : Nat → Nat → Nat → Bool
  | 0, _, _ => false
  | fuel + 1, lo, hi =>
    if hi ≤ lo then false
    else
      let mid := (lo + hi) / 2
      match t.rows[mid]? with
      | none => false
      | some (a, b) =>
        if n < a then search t n fuel lo mid
        else if b < n then search t n fuel (mid + 1) hi
        else true

def contains (t : Lookup) (n : Nat) : Bool :=
  t.search n (t.rows.size.log2 + 2) 0 t.rows.size

end Lookup

end Logworks.Unicode
