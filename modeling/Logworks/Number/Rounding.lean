/-!
# Rounding a quotient

Every inexact number in this library comes from one rule: a quotient of whole numbers goes to the
nearest whole number, and a half goes to the even neighbour. This file fixes

* `roundQuotient` -- the rule;
* `two_mul_roundQuotient_le`, `le_two_mul_roundQuotient` -- **the result is within half a unit**;
* `roundQuotient_mul` -- a quotient that comes out even is not touched;
* `roundQuotient_mono` -- rounding keeps the order.
-/

namespace Logworks.Number

/-- `num / den` to the nearest whole number, halves to the even one. -/
def roundQuotient (num den : Nat) : Nat :=
  let q := num / den
  let twice := 2 * (num % den)
  if twice < den then q
  else if den < twice then q + 1
  else if q % 2 = 0 then q else q + 1

theorem two_mul_roundQuotient_le (num : Nat) {den : Nat} (h : 0 < den) :
    2 * (roundQuotient num den * den) ≤ 2 * num + den := by
  have hd := Nat.div_add_mod num den
  have hm := Nat.mod_lt num h
  have hc : num / den * den = den * (num / den) := Nat.mul_comm _ _
  simp only [roundQuotient]
  split
  · omega
  · split
    · rw [Nat.add_mul]; omega
    · split
      · omega
      · rw [Nat.add_mul]; omega

theorem le_two_mul_roundQuotient (num : Nat) {den : Nat} (h : 0 < den) :
    2 * num ≤ 2 * (roundQuotient num den * den) + den := by
  have hd := Nat.div_add_mod num den
  have hm := Nat.mod_lt num h
  have hc : num / den * den = den * (num / den) := Nat.mul_comm _ _
  simp only [roundQuotient]
  split
  · omega
  · split
    · rw [Nat.add_mul]; omega
    · split
      · omega
      · rw [Nat.add_mul]; omega

theorem roundQuotient_mul (q : Nat) {den : Nat} (h : 0 < den) :
    roundQuotient (q * den) den = q := by
  simp [roundQuotient, Nat.mul_div_cancel _ h, h]

theorem div_le_roundQuotient (num den : Nat) : num / den ≤ roundQuotient num den := by
  simp only [roundQuotient]
  repeat' split
  all_goals omega

theorem roundQuotient_le_div_add_one (num den : Nat) :
    roundQuotient num den ≤ num / den + 1 := by
  simp only [roundQuotient]
  repeat' split
  all_goals omega

theorem roundQuotient_mono {a b : Nat} (den : Nat) (h : a ≤ b) :
    roundQuotient a den ≤ roundQuotient b den := by
  rcases Nat.lt_or_eq_of_le (Nat.div_le_div_right h : a / den ≤ b / den) with hlt | heq
  · calc
      roundQuotient a den ≤ a / den + 1 := roundQuotient_le_div_add_one a den
      _ ≤ b / den := hlt
      _ ≤ roundQuotient b den := div_le_roundQuotient b den
  · -- the same whole part, so the rest decides
    have rest : a % den ≤ b % den := by
      have ha := Nat.div_add_mod a den
      have hb := Nat.div_add_mod b den
      rw [heq] at ha
      omega
    simp only [roundQuotient, heq]
    repeat' split
    all_goals omega

end Logworks.Number
