import Logworks.Number.Binary64
import Mathlib.Algebra.GroupWithZero.Nat
import Mathlib.Algebra.Order.Field.Rat
import Mathlib.Algebra.Order.Ring.Cast
import Mathlib.Algebra.Order.Ring.Rat
import Mathlib.Data.Int.Cast.Lemmas

/-!
# Where numbers of double precision stand

A finite number stands for a fraction, and comparisons are those of the fractions. A number that is
not negative stands where its size says, which counts the least number. This file fixes

* `value` -- the fraction; `lt_iff_value`, `le_iff_value` -- **numbers are compared as it says**;
* `below`, `atMost` -- a number as a bound of fractions;
* `size` -- where a number that is not negative stands; `lt_iff_size`, `le_iff_size` -- **those are
  compared as it says**, infinity with them;
* `compare_mono` -- what is above a bound is so when it grows.
-/

namespace Logworks.Number

namespace Binary64

/-! ## 1. Values -/

/-- The fraction that a finite number stands for. -/
def value (negative : Bool) (m : Nat) (e : Int) : ℚ :=
  (if negative then -(m : ℚ) else m) * 2 ^ e

theorem scaled_mul {negative : Bool} {m : Nat} {e unit : Int} (h : unit ≤ e) :
    (scaled negative m e unit : ℚ) * 2 ^ unit = value negative m e := by
  have split : (2 : ℚ) ^ e = 2 ^ (e - unit).toNat * 2 ^ unit := by
    rw [← zpow_natCast, ← zpow_add₀ two_ne_zero]
    congr 1
    omega
  rw [value, scaled, split]
  cases negative <;> simp [Nat.shiftLeft_eq, mul_assoc]

section Comparing

variable {s t : Bool} {m n : Nat} {e f : Int}

theorem lt_iff_value :
    (Binary64.finite s m e).lt (.finite t n f) = true ↔ value s m e < value t n f := by
  have unit : (0 : ℚ) < 2 ^ min e f := zpow_pos two_pos _
  rw [lt, decide_eq_true_iff, ← scaled_mul (Int.min_le_left e f),
    ← scaled_mul (Int.min_le_right e f), mul_lt_mul_iff_left₀ unit, Int.cast_lt]

theorem eqv_iff_value :
    (Binary64.finite s m e).eqv (.finite t n f) = true ↔ value s m e = value t n f := by
  have unit : (2 : ℚ) ^ min e f ≠ 0 := zpow_ne_zero _ two_ne_zero
  rw [eqv, beq_iff_eq, ← scaled_mul (Int.min_le_left e f), ← scaled_mul (Int.min_le_right e f),
    mul_left_inj' unit, Int.cast_inj]

theorem le_iff_value :
    (Binary64.finite s m e).le (.finite t n f) = true ↔ value s m e ≤ value t n f := by
  rw [le, Bool.or_eq_true, lt_iff_value, eqv_iff_value, le_iff_lt_or_eq]

end Comparing

/-! ## 2. Bounds -/

/-- A bound is below a fraction: a finite one as it is worth, the negative infinity always, and one
that is no number never. -/
def below : Binary64 → ℚ → Bool
  | nan, _ => false
  | infinite s, _ => s
  | finite s m e, x => value s m e < x

/-- A bound is at most a fraction. -/
def atMost : Binary64 → ℚ → Bool
  | nan, _ => false
  | infinite s, _ => s
  | finite s m e, x => value s m e ≤ x

theorem lt_finite (bound : Binary64) (s : Bool) (m : Nat) (e : Int) :
    bound.lt (.finite s m e) = bound.below (value s m e) := by
  cases bound with
  | nan => rfl
  | infinite t => rfl
  | finite t n f => exact Bool.eq_iff_iff.mpr (lt_iff_value.trans decide_eq_true_iff.symm)

theorem le_finite (bound : Binary64) (s : Bool) (m : Nat) (e : Int) :
    bound.le (.finite s m e) = bound.atMost (value s m e) := by
  cases bound with
  | nan => rfl
  | infinite t => exact Bool.or_false t
  | finite t n f => exact Bool.eq_iff_iff.mpr (le_iff_value.trans decide_eq_true_iff.symm)

theorem below_mono {x y : ℚ} (h : x ≤ y) (bound : Binary64) :
    bound.below x = true → bound.below y = true := by
  cases bound with
  | nan => exact nofun
  | infinite s => exact id
  | finite s m e => simpa [below] using fun less => lt_of_lt_of_le less h

theorem atMost_mono {x y : ℚ} (h : x ≤ y) (bound : Binary64) :
    bound.atMost x = true → bound.atMost y = true := by
  cases bound with
  | nan => exact nofun
  | infinite s => exact id
  | finite s m e => simpa [atMost] using fun least => le_trans least h

/-! ## 3. Sizes -/

/-- The greatest exponent, counted from the least one. -/
@[irreducible] def exponentSpan : Nat := 2045

/-- Past the size of every finite number. -/
def topSize : Nat := 2 ^ (53 + exponentSpan)

theorem two_pow_mul {a b c : Nat} (h : a + b = c) : 2 ^ a * 2 ^ b = 2 ^ c := by
  rw [← Nat.pow_add, h]

theorem toNat_le_exponentSpan {e : Int} (h : e ≤ maxExponent) :
    (e + 1074).toNat ≤ exponentSpan := by
  unfold maxExponent at h
  unfold exponentSpan
  omega

/-- One in units of the least number. -/
@[irreducible] def unitSpan : Nat := 1074

theorem unitSpan_eq : unitSpan = 1074 := by
  unfold unitSpan
  rfl

theorem exponentSpan_eq : exponentSpan = 2045 := by
  unfold exponentSpan
  rfl

/-- Where a number that is not negative stands: in units of the least one, infinity past all. -/
def size : Binary64 → Nat
  | finite _ m e => m * 2 ^ (e + 1074).toNat
  | _ => topSize

/-- The number is not negative, and in the range of its kind. -/
inductive Plain : Binary64 → Prop where
  | infinite : Plain (.infinite false)
  | finite (m : Nat) (e : Int) (mantissa : m < 2 ^ 53) (low : minExponent ≤ e)
      (high : e ≤ maxExponent) : Plain (.finite false m e)

theorem size_lt_topSize {m : Nat} {e : Int} (mantissa : m < 2 ^ 53) (high : e ≤ maxExponent) :
    size (.finite false m e) < topSize := by
  calc m * 2 ^ (e + 1074).toNat
      ≤ m * 2 ^ exponentSpan :=
        Nat.mul_le_mul_left m (Nat.pow_le_pow_right (by decide) (toNat_le_exponentSpan high))
    _ < 2 ^ 53 * 2 ^ exponentSpan :=
        Nat.mul_lt_mul_of_pos_right mantissa (Nat.two_pow_pos exponentSpan)
    _ = topSize := two_pow_mul rfl

/-- A finite number that is not negative. -/
inductive Measured : Binary64 → Prop where
  | finite (m : Nat) (e : Int) (mantissa : m < 2 ^ 53) (low : minExponent ≤ e)
      (high : e ≤ maxExponent) : Measured (.finite false m e)

theorem Plain.measured {x : Binary64} (hx : Plain x) (h : x.size < topSize) : Measured x := by
  cases hx with
  | infinite => exact absurd h (Nat.lt_irrefl _)
  | finite m e mantissa low high => exact .finite m e mantissa low high

/-- A number that is not negative is worth its size. -/
theorem value_eq_size {m : Nat} {e : Int} (low : minExponent ≤ e) :
    value false m e = (Binary64.finite false m e).size * 2 ^ minExponent := by
  unfold minExponent at *
  rw [value, size, if_neg Bool.false_ne_true, Nat.cast_mul, Nat.cast_pow, mul_assoc,
    ← zpow_natCast, Nat.cast_ofNat, ← zpow_add₀ two_ne_zero]
  congr 2
  omega

section Comparing

variable {m n : Nat} {e f : Int}

theorem value_lt_iff (he : minExponent ≤ e) (hf : minExponent ≤ f) :
    value false m e < value false n f ↔
      (Binary64.finite false m e).size < (Binary64.finite false n f).size := by
  rw [value_eq_size he, value_eq_size hf, mul_lt_mul_iff_left₀ (zpow_pos two_pos _), Nat.cast_lt]

theorem value_eq_iff (he : minExponent ≤ e) (hf : minExponent ≤ f) :
    value false m e = value false n f ↔
      (Binary64.finite false m e).size = (Binary64.finite false n f).size := by
  rw [value_eq_size he, value_eq_size hf, mul_left_inj' (zpow_ne_zero _ two_ne_zero), Nat.cast_inj]

end Comparing

theorem lt_iff_size {x y : Binary64} (hx : Plain x) (hy : Plain y) :
    x.lt y = true ↔ x.size < y.size := by
  cases hx with
  | infinite =>
    cases hy with
    | infinite => simp [lt]
    | finite n f mantissa low high =>
      have below := size_lt_topSize mantissa high
      simp only [lt, Bool.false_eq_true, false_iff]
      exact Nat.not_lt.mpr (Nat.le_of_lt below)
  | finite m e mantissa low high =>
    cases hy with
    | infinite => exact iff_of_true rfl (size_lt_topSize mantissa high)
    | finite n f mantissa' low' high' => exact lt_iff_value.trans (value_lt_iff low low')

theorem eqv_iff_size {x y : Binary64} (hx : Plain x) (hy : Plain y) :
    x.eqv y = true ↔ x.size = y.size := by
  cases hx with
  | infinite =>
    cases hy with
    | infinite => exact iff_of_true rfl rfl
    | finite n f mantissa low high =>
      exact iff_of_false Bool.false_ne_true (Nat.ne_of_gt (size_lt_topSize mantissa high))
  | finite m e mantissa low high =>
    cases hy with
    | infinite =>
      exact iff_of_false Bool.false_ne_true (Nat.ne_of_lt (size_lt_topSize mantissa high))
    | finite n f mantissa' low' high' => exact eqv_iff_value.trans (value_eq_iff low low')

theorem le_iff_size {x y : Binary64} (hx : Plain x) (hy : Plain y) :
    x.le y = true ↔ x.size ≤ y.size := by
  rw [le, Bool.or_eq_true, lt_iff_size hx hy, eqv_iff_size hx hy, Nat.le_iff_lt_or_eq]

/-- **What is above a bound is so when it grows**, in double precision too. -/
theorem compare_mono {x y : Binary64} (hx : Plain x) (hy : Plain y) (h : x.size ≤ y.size)
    (bound : Binary64) :
    (bound.lt x = true → bound.lt y = true) ∧ (bound.le x = true → bound.le y = true) := by
  cases hy with
  | infinite =>
    cases hx with
    | infinite => exact ⟨id, id⟩
    | finite m e =>
      cases bound with
      | nan => exact ⟨nofun, nofun⟩
      | infinite s => cases s <;> simp [le, lt, eqv]
      | finite s q g => exact ⟨fun _ => rfl, fun _ => rfl⟩
  | finite n f mantissa low high =>
    cases hx with
    | infinite => exact absurd h (Nat.not_le.mpr (size_lt_topSize mantissa high))
    | finite m e _ low' =>
      have worth : value false m e ≤ value false n f := by
        rw [value_eq_size low', value_eq_size low]
        exact mul_le_mul_of_nonneg_right (Nat.cast_le.mpr h) (zpow_pos two_pos _).le
      rw [lt_finite, lt_finite, le_finite, le_finite]
      exact ⟨below_mono worth bound, atMost_mono worth bound⟩

end Binary64

end Logworks.Number
