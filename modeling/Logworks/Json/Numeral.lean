import Logworks.Json.Error
import Logworks.Number.Decimal

/-!
# Numbers as documents write them

A number is read as a whole number while it is written as one and fits sixty-four bits, else as a
number of double precision. The double is not the nearest to the text: its digits are taken as far
as sixty-four bits hold them, and the result is multiplied or divided once by a power of ten, each
step rounding. This file fixes

* `Literal` -- the parts a number is written with;
* `Literal.numeral` -- the number they stand for, or `malformed` where it is past the largest.
-/

namespace Logworks.Json

open Logworks.Number

/-- The parts of a number as written. -/
structure Literal where
  negative : Bool := false
  whole : List Char := []
  fraction : List Char := []
  /-- The sign and the digits behind the `e`. -/
  exponent : Option (Bool × List Char) := none
  deriving DecidableEq, Repr

/-- A number read from a document. -/
inductive Numeral where
  | natural (n : Nat)
  /-- A negative whole number, by its size. -/
  | negative (n : Nat)
  | double (x : Binary64)
  deriving DecidableEq, Repr

namespace Literal

/-- The greatest whole number of sixty-four bits. -/
def maxWord : Nat := UInt64.size - 1

/-- Takes digits into a number as long as sixty-four bits hold it; the digits not taken are left. -/
def takeDigits : Nat → List Char → Nat × List Char
  | n, [] => (n, [])
  | n, c :: cs =>
    let next := 10 * n + (c.toNat - 48)
    if next ≤ maxWord then takeDigits next cs else (n, c :: cs)

/-- The power of ten nearest to `10^k`. -/
def powerOfTen (k : Nat) : Binary64 := .ofNat (Nat.pow 10 k)

/-- Digits times a power of ten, for exponents up to 308 either way. -/
def scaleOnce (x : Binary64) (e : Int) : Except Error Binary64 :=
  if 0 ≤ e then
    match x.mul (powerOfTen e.toNat) with
    | .infinite _ => .error .malformed
    | y => .ok y
  else .ok (x.div (powerOfTen e.natAbs))

/-- Digits times any power of ten: the size is first brought within reach, 308 places a step. -/
def scale : Nat → Binary64 → Int → Except Error Binary64
  | 0, x, _ => .ok x
  | fuel + 1, x, e =>
    if e.natAbs ≤ 308 then scaleOnce x e
    else if x.isZero then .ok x
    else if 0 ≤ e then .error .malformed
    else scale fuel (x.div (powerOfTen 308)) (e + 308)

def signedDouble (negative : Bool) (x : Binary64) : Binary64 := if negative then x.neg else x

/-- The greatest exponent that is counted. -/
def maxExponent : Nat := 0x7FFFFFFF

/-- Keeps an exponent within thirty-two bits. -/
def clampExponent (e : Int) : Int :=
  max (-(maxExponent : Int) - 1) (min (maxExponent : Int) e)

/-- The number with its exponent taken in. An exponent too long to count gives zero, or a number
too large. -/
def withExponent (l : Literal) (digits : Nat) (start : Int) : Except Error Numeral :=
  let double (e : Int) :=
    (scale 16 (.ofNat digits) e).map fun x => .double (signedDouble l.negative x)
  match l.exponent with
  | none => double start
  | some (negativeExponent, ds) =>
    let n := ds.foldl (fun n c => if maxExponent < n then n else 10 * n + (c.toNat - 48)) 0
    if maxExponent < n then
      if digits ≠ 0 ∧ !negativeExponent then .error .malformed
      else .ok (.double (.zero l.negative))
    else double (clampExponent (if negativeExponent then start - n else start + n))

/-- The number a literal stands for. -/
def numeral (l : Literal) : Except Error Numeral :=
  let (digits, left) := takeDigits 0 l.whole
  if l.fraction.isEmpty && l.exponent.isNone && left.isEmpty then
    if !l.negative then .ok (.natural digits)
    else if digits = 0 ∨ 0x8000000000000000 < digits then .ok (.double (Binary64.ofNat digits).neg)
    else .ok (.negative digits)
  else
    let (digits, cut) := takeDigits digits l.fraction
    withExponent l digits ((left.length : Int) - (l.fraction.length - cut.length : Nat))

end Literal

end Logworks.Json
