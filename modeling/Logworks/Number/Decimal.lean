import Logworks.Number.Binary64
import Logworks.Text.Decimal

/-!
# Decimal text of numbers of double precision

This file fixes

* `shortest?` -- **the fewest decimal digits that read back as the number**, of these the nearest;
* `documentText` -- the text of a number in a document: positional while the decimal exponent lies
  in -5 … 15, with a point always, else `d.ddde-7` with the sign of the exponent written;
* `fixed` -- a number in a fixed number of places, a half going to the even neighbour;
* `ofText?` -- the number nearest to a decimal text.
-/

namespace Logworks.Number

open Logworks.Text

namespace Binary64

/-- The exponent of the first decimal digit of `num / den`, for a quotient that is not zero. -/
def decimalExponent (num den : Nat) : Int :=
  if den ≤ num then ((digits (num / den)).length : Int) - 1
  else -((digits ((den - 1) / num)).length : Int)

/-- `num / den` in units of `10^e`, as a quotient of whole numbers. -/
def inTens (num den : Nat) (e : Int) : Nat × Nat :=
  if e < 0 then (num * Nat.pow 10 e.natAbs, den) else (num, den * Nat.pow 10 e.natAbs)

/-- The number `d · 10^e` is nearest to. -/
def ofDecimal (negative : Bool) (d : Nat) (e : Int) : Binary64 :=
  if e < 0 then ofQuotient negative d (Nat.pow 10 e.natAbs)
  else ofQuotient negative (d * Nat.pow 10 e.natAbs) 1

/-- Of the two neighbours of `num / den` in units of `10^e`, the one that reads back as `x`; of
two, the nearer, and of two as near the even one. -/
def neighbour? (x : Binary64) (num den : Nat) (e : Int) : Option Nat :=
  let (n, d) := inTens num den e
  let below := n / d
  let nearest := roundQuotient n d
  if ofDecimal false nearest e == x then some nearest
  else
    let farther := if nearest = below then below + 1 else below
    if ofDecimal false farther e == x then some farther else none

/-- The first precision, of those still allowed, at which a neighbour reads back. -/
def searchDigits (x : Binary64) (num den : Nat) (first : Int) : Nat → Nat → Option (Nat × Int)
  | 0, _ => none
  | fuel + 1, places =>
    let e := first - places
    match neighbour? x num den e with
    | some d => some (d, e)
    | none => searchDigits x num den first fuel (places + 1)

/-- The digits and the exponent of the last one, for the size of a finite number that is not
zero. Seventeen digits always read back. -/
def shortest? : Binary64 → Option (Nat × Int)
  | finite _ m e =>
    if m = 0 then none
    else
      let (num, den) := quotientOf m e
      searchDigits (finite false m e) num den (decimalExponent num den) 18 0
  | _ => none

/-- Digits without the zeros at their end, with the exponent of the last one left. -/
def dropZeros (ds : List Char) (e : Int) : List Char × Int :=
  let kept := (ds.reverse.dropWhile (· == '0')).reverse
  (kept, e + (ds.length - kept.length : Nat))

/-! ## The text of a number in a document -/

/-- Digits with the point behind the digit of exponent 0. -/
def positional (ds : List Char) (last : Int) : List Char :=
  let first := last + ds.length - 1
  if 0 ≤ last then ds ++ List.replicate last.toNat '0' ++ ".0".toList
  else if 0 ≤ first then
    ds.take (first + 1).toNat ++ '.' :: ds.drop (first + 1).toNat
  else "0.".toList ++ List.replicate (-first - 1).toNat '0' ++ ds

/-- Digits with the point behind the first, and the exponent with its sign. -/
def scientific (ds : List Char) (last : Int) : List Char :=
  let first := last + ds.length - 1
  let mantissa :=
    match ds with
    | [] => []
    | [d] => [d]
    | d :: rest => d :: '.' :: rest
  mantissa ++ 'e' :: signOf true first ++ digits first.natAbs

/-- The text of a finite number; there is none for the others. -/
def documentText? (x : Binary64) : Option (List Char) :=
  match x with
  | finite s m _ =>
    let sign := if s then ['-'] else []
    if m = 0 then some (sign ++ "0.0".toList)
    else match x.shortest? with
      | none => none
      | some (d, e) =>
        let (ds, last) := dropZeros (digits d) e
        let first := last + ds.length - 1
        some (sign ++ if -5 ≤ first ∧ first ≤ 15 then positional ds last else scientific ds last)
  | _ => none

/-! ## Fixed places -/

/-- A number in `places` decimal places, rounded exactly. -/
def fixed (places : Nat) : Binary64 → List Char
  | nan => "NaN".toList
  | infinite s => if s then "-inf".toList else "inf".toList
  | finite s m e =>
    let (num, den) := quotientOf m e
    let units := roundQuotient (num * Nat.pow 10 places) den
    let ds := zeroPadded (places + 1) units
    let cut := ds.length - places
    (if s then ['-'] else []) ++ ds.take cut ++
      if places = 0 then [] else '.' :: ds.drop cut

/-! ## Reading a decimal text -/

/-- The value of decimal digits. -/
def digitsValue (cs : List Char) : Nat :=
  cs.foldl (fun n c => 10 * n + (c.toNat - 48)) 0

/-- A signed decimal exponent, sign before digits. -/
def exponentValue? (cs : List Char) : Option Int :=
  let (negative, ds) :=
    match cs with
    | '-' :: ds => (true, ds)
    | '+' :: ds => (false, ds)
    | ds => (false, ds)
  if ds.isEmpty || !ds.all Char.isDigit then none
  else
    let n : Int := digitsValue ds
    some (if negative then -n else n)

/-- `d · 10^e` for any exponent: one too large or too small for every mantissa is not computed. -/
def ofDecimalAny (negative : Bool) (d : Nat) (e : Int) : Binary64 :=
  let first := e + (digits d).length
  if d = 0 ∨ first < -400 then zero negative
  else if 400 < first then infinite negative
  else ofDecimal negative d e

/-- A decimal text without its sign: digits, perhaps a fraction, perhaps an exponent. -/
def ofUnsignedText? (negative : Bool) (cs : List Char) : Option Binary64 :=
  let whole := cs.takeWhile Char.isDigit
  let rest := cs.dropWhile Char.isDigit
  let (fraction, rest) :=
    match rest with
    | '.' :: r => (r.takeWhile Char.isDigit, r.dropWhile Char.isDigit)
    | r => ([], r)
  if whole.isEmpty && fraction.isEmpty then none
  else
    let exponent? :=
      match rest with
      | [] => some 0
      | 'e' :: r => exponentValue? r
      | 'E' :: r => exponentValue? r
      | _ => none
    exponent?.map fun e =>
      ofDecimalAny negative (digitsValue (whole ++ fraction)) (e - fraction.length)

/-- The number nearest to a decimal text; `NaN`, `inf` and `-inf` are read as such. -/
def ofText? (cs : List Char) : Option Binary64 :=
  if cs = "NaN".toList then some nan
  else if cs = "inf".toList then some (infinite false)
  else if cs = "-inf".toList then some (infinite true)
  else match cs with
    | '-' :: rest => ofUnsignedText? true rest
    | '+' :: rest => ofUnsignedText? false rest
    | rest => ofUnsignedText? false rest

end Binary64

end Logworks.Number
