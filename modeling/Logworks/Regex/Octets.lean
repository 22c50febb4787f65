import Logworks.Unicode.Ranges

/-!
# Sets of characters as octets

A text is matched octet by octet. A range of characters is cut into pieces so small that the
octets of a piece can vary independently of one another: each piece is a sequence of ranges of
octets, one for every octet of its characters. This file fixes

* `OctetRange`, `OctetSequence`;
* `octetSequences` -- **the pieces of a set, ascending**.
-/

namespace Logworks.Regex

open Logworks.Unicode

/-- Octets from the first to the second, ends included. -/
abbrev OctetRange := UInt8 × UInt8

/-- Ranges for one octet after the other. -/
abbrev OctetSequence := List OctetRange

/-- The octets of the first and of the last character of a piece, side by side. -/
def octetPairs (lo hi : Nat) : OctetSequence :=
  (String.utf8EncodeChar (Char.ofNat lo)).zip (String.utf8EncodeChar (Char.ofNat hi))

/-- Where a range has to be cut, as the last code point of its lower part: at the surrogates, where
the number of octets changes, and where a later octet may not run over all its values. -/
def cut? (lo hi : Nat) : Option Nat :=
  let lengths := [0x7F, 0x7FF, 0xFFFF].filter fun m => lo ≤ m && m < hi
  let octets := [64, 4096, 262144].filterMap fun m =>
    if lo / m = hi / m then none
    else if lo % m ≠ 0 then some (lo / m * m + (m - 1))
    else if hi % m ≠ m - 1 then some (hi / m * m - 1)
    else none
  match lengths, octets with
  | n :: _, _ => some n
  | [], n :: _ => if hi ≤ 0x7F then none else some n
  | [], [] => none

/-- The pieces of a range, cut at most as often as the number in front says. -/
def piecesIn : Nat → (lo hi : Nat) → List OctetSequence
  | 0, _, _ => []
  | fuel + 1, lo, hi =>
    if hi < lo then []
    else match cut? lo hi with
      | some n => piecesIn fuel lo n ++ piecesIn fuel (n + 1) hi
      | none => [octetPairs lo hi]

/-- The pieces of a range, where the surrogates are left out first. No range needs more than twenty
cuts one inside the other. -/
def pieces (r : Nat × Nat) : List OctetSequence :=
  if r.1 ≤ Ranges.beforeSurrogates ∧ Ranges.behindSurrogates ≤ r.2 then
    piecesIn 20 r.1 Ranges.beforeSurrogates ++ piecesIn 20 Ranges.behindSurrogates r.2
  else piecesIn 20 r.1 r.2

/-- The pieces of a set. -/
def octetSequences (rs : Ranges) : List OctetSequence := rs.flatMap pieces

example : octetSequences [(0x41, 0x5A), (0xE9, 0x800)] =
    [[(0x41, 0x5A)], [(0xC3, 0xC3), (0xA9, 0xBF)], [(0xC4, 0xDF), (0x80, 0xBF)],
     [(0xE0, 0xE0), (0xA0, 0xA0), (0x80, 0x80)]] := by decide +kernel

end Logworks.Regex
