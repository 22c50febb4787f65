import Logworks.Number.Rounding

/-!
# Numbers of double precision

A finite number of double precision is a sign, a mantissa below 2^53 and an exponent of two; its
value is `mantissa · 2^exponent`. All arithmetic is exact on whole numbers and rounds once, at
the end. This file fixes

* `Binary64` -- the numbers, with the two infinities and one NaN;
* `ofQuotient` -- **the number nearest to a quotient**, a half going to the even mantissa, and
  infinity past the largest number;
* sums, products, quotients and comparisons through it;
* the sixty-four bits a number is stored in, both ways.
-/

namespace Logworks.Number

inductive Binary64 where
  | nan
  | infinite (negative : Bool)
  | finite (negative : Bool) (mantissa : Nat) (exponent : Int)
  deriving DecidableEq, Repr, Inhabited

namespace Binary64

/-- The least exponent: below it mantissas lose digits. -/
def minExponent : Int := -1074

/-- The greatest exponent of a finite number. -/
def maxExponent : Int := 971

def zero (negative : Bool) : Binary64 := finite negative 0 minExponent

/-- `num / den` in units of `2^e`, as a quotient of whole numbers. -/
def inUnits (num den : Nat) (e : Int) : Nat × Nat :=
  if e < 0 then (num <<< e.natAbs, den) else (num, den <<< e.natAbs)

/-- The unit in which `num / den` has a mantissa of 53 digits, or the least unit. -/
def unitFor (num den : Nat) : Int :=
  let guess : Int := (Nat.log2 num : Int) - Nat.log2 den - 53
  let (n, d) := inUnits num den guess
  max minExponent (if 1 <<< 53 ≤ n / d then guess + 1 else guess)

/-- A mantissa of at most 2^53 in a unit, brought to normal form. -/
def ofMantissa (negative : Bool) (m : Nat) (e : Int) : Binary64 :=
  if m = 0 then zero negative
  else if m < 1 <<< 53 then
    if e ≤ maxExponent then finite negative m e else infinite negative
  else if e + 1 ≤ maxExponent then finite negative (1 <<< 52) (e + 1)
  else infinite negative

/-- The number nearest to `num / den`, with a sign. -/
def ofQuotient (negative : Bool) (num den : Nat) : Binary64 :=
  if num = 0 then zero negative
  else
    let e := unitFor num den
    let (n, d) := inUnits num den e
    ofMantissa negative (roundQuotient n d) e

def ofNat (n : Nat) : Binary64 := ofQuotient false n 1

def ofInt (z : Int) : Binary64 := ofQuotient (z < 0) z.natAbs 1

/-- The size of a finite number as a quotient of whole numbers. -/
def quotientOf (m : Nat) (e : Int) : Nat × Nat :=
  if e < 0 then (m, 1 <<< e.natAbs) else (m <<< e.natAbs, 1)

def isFinite : Binary64 → Bool
  | finite .. => true
  | _ => false

def isZero : Binary64 → Bool
  | finite _ m _ => m == 0
  | _ => false

def neg : Binary64 → Binary64
  | nan => nan
  | infinite s => infinite !s
  | finite s m e => finite (!s) m e

/-! ## Arithmetic -/

/-- A signed mantissa in units of `2^e`, where `e` is not above the number's own exponent. -/
def scaled (negative : Bool) (m : Nat) (e unit : Int) : Int :=
  let size : Int := (m <<< (e - unit).toNat : Nat)
  if negative then -size else size

def add : Binary64 → Binary64 → Binary64
  | nan, _ | _, nan => nan
  | infinite s, infinite t => if s = t then infinite s else nan
  | infinite s, _ => infinite s
  | _, infinite t => infinite t
  | finite s m e, finite t n f =>
    let unit := min e f
    let sum := scaled s m e unit + scaled t n f unit
    if sum = 0 then zero (s && t)
    else
      let (a, b) := quotientOf sum.natAbs unit
      ofQuotient (sum < 0) a b

def mul : Binary64 → Binary64 → Binary64
  | nan, _ | _, nan => nan
  | infinite s, infinite t => infinite (s != t)
  | infinite s, finite t n _ => if n = 0 then nan else infinite (s != t)
  | finite s m _, infinite t => if m = 0 then nan else infinite (s != t)
  | finite s m e, finite t n f =>
    let (a, b) := quotientOf (m * n) (e + f)
    ofQuotient (s != t) a b

def div : Binary64 → Binary64 → Binary64
  | nan, _ | _, nan => nan
  | infinite _, infinite _ => nan
  | infinite s, finite t _ _ => infinite (s != t)
  | finite s _ _, infinite t => zero (s != t)
  | finite s m e, finite t n f =>
    if n = 0 then (if m = 0 then nan else infinite (s != t))
    else
      let (a, b) := quotientOf m (e - f)
      ofQuotient (s != t) a (b * n)

/-- Where a number stands among the others that are no NaN: exact, with the infinities outside. -/
def lt : Binary64 → Binary64 → Bool
  | nan, _ | _, nan => false
  | infinite s, infinite t => s && !t
  | infinite s, finite .. => s
  | finite .., infinite t => !t
  | finite s m e, finite t n f =>
    let unit := min e f
    decide (scaled s m e unit < scaled t n f unit)

/-- Equal in value: the two zeros are, a NaN is not even equal to itself. -/
def eqv : Binary64 → Binary64 → Bool
  | nan, _ | _, nan => false
  | infinite s, infinite t => s == t
  | infinite _, finite .. | finite .., infinite _ => false
  | finite s m e, finite t n f =>
    let unit := min e f
    scaled s m e unit == scaled t n f unit

def le (x y : Binary64) : Bool := lt x y || eqv x y

/-! ## Bits -/

/-- Sign, eleven bits of exponent, fifty-two bits of mantissa. -/
def toBits : Binary64 → Nat
  | nan => 0x7FF8000000000000
  | infinite s => (if s then 1 <<< 63 else 0) + (0x7FF <<< 52)
  | finite s m e =>
    let sign := if s then 1 <<< 63 else 0
    if m < 1 <<< 52 then sign + m
    else sign + ((e + 1075).toNat <<< 52) + (m - (1 <<< 52))

/-- The bits as sixteen hexadecimal digits. -/
def hex (x : Binary64) : List Char :=
  let ds := Nat.toDigits 16 x.toBits
  List.replicate (16 - ds.length) '0' ++ ds

end Binary64

end Logworks.Number
