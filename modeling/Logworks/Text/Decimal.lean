/-!
# Whole numbers in decimal

The digits of a number, and the three ways to bring them to a width: not at all, with zeros after
the sign, with blanks before it.
-/

namespace Logworks.Text

/-- The decimal digits of a number, without leading zeros. -/
def digits (n : Nat) : List Char := Nat.toDigits 10 n

/-- A text brought to a width by a character put before it. -/
def padLeft (fill : Char) (width : Nat) (cs : List Char) : List Char :=
  List.replicate (width - cs.length) fill ++ cs

/-- The digits of a number in at least `width` places. -/
def zeroPadded (width n : Nat) : List Char := padLeft '0' width (digits n)

/-- How a number is brought to its width. -/
inductive Fill where
  | none | zeros | blanks
  deriving DecidableEq, Repr

/-- The sign a number is written with: a minus where it is negative, else a plus if wanted. -/
def signOf (plus : Bool) (z : Int) : List Char :=
  if z < 0 then ['-'] else if plus then ['+'] else []

/-- A number with its sign, brought to a width that counts the sign. -/
def signed (fill : Fill) (plus : Bool) (width : Nat) (z : Int) : List Char :=
  let sign := signOf plus z
  match fill with
  | .none => sign ++ digits z.natAbs
  | .zeros => sign ++ zeroPadded (width - sign.length) z.natAbs
  | .blanks => padLeft ' ' width (sign ++ digits z.natAbs)

example : signed .zeros true 5 (-12) = "-0012".toList := by decide
example : signed .blanks false 3 7 = "  7".toList := by decide

end Logworks.Text
