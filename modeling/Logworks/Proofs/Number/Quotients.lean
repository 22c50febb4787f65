import Logworks.Proofs.Number.Sizes

/-!
# Quotients in double precision

A sum or a quotient of two numbers that are not negative is rounded once, and depends on their
sizes alone. A greater quotient never becomes a smaller number. This file fixes

* `IsSpan` -- the unit a quotient is rounded in; `ofQuotient_eq` -- **a quotient is rounded in it**;
* `ofQuotient_congr` -- equal quotients become the same number;
* `plain_ofQuotient` -- the size of the number nearest to a quotient; `size_ofQuotient_mono` --
  **rounding keeps the order of quotients**;
* `div_eq`, `add_eq` -- **quotients and sums are those of the sizes**.
-/

namespace Logworks.Number

/-! ## 1. Rounding -/

/-- What is rounded is the quotient, whichever way it is written. -/
theorem roundQuotient_mul_right (num den : Nat) {c : Nat} (h : 0 < c) :
    roundQuotient (num * c) (den * c) = roundQuotient num den := by
  have twice : 2 * (num % den * c) = 2 * (num % den) * c := (Nat.mul_assoc 2 _ c).symm
  simp only [roundQuotient, Nat.mul_div_mul_right _ _ h, Nat.mul_mod_mul_right, twice,
    Nat.mul_lt_mul_right h]

/-- Rounding keeps the order of quotients. -/
theorem roundQuotient_le {a b c d : Nat} (hb : 0 < b) (hd : 0 < d) (h : a * d ≤ c * b) :
    roundQuotient a b ≤ roundQuotient c d := by
  calc roundQuotient a b = roundQuotient (a * d) (b * d) := (roundQuotient_mul_right a b hd).symm
    _ ≤ roundQuotient (c * b) (b * d) := roundQuotient_mono _ h
    _ = roundQuotient (c * b) (d * b) := by rw [Nat.mul_comm b d]
    _ = roundQuotient c d := roundQuotient_mul_right c d hb

theorem roundQuotient_congr {a b c d : Nat} (hb : 0 < b) (hd : 0 < d) (h : a * d = c * b) :
    roundQuotient a b = roundQuotient c d :=
  Nat.le_antisymm (roundQuotient_le hb hd (Nat.le_of_eq h))
    (roundQuotient_le hd hb (Nat.le_of_eq h.symm))

theorem roundQuotient_one (n : Nat) : roundQuotient n 1 = n := by
  have whole := roundQuotient_mul n Nat.one_pos
  rwa [Nat.mul_one] at whole

namespace Binary64

/-! ## 2. The unit of a quotient -/

/-- The unit that a quotient of `num` by `den`, in units of the least number, is rounded in, counted
from the least one: the quotient has fifty-three digits before the point at most, and no fewer
unless it is the least unit. -/
structure IsSpan (num den k : Nat) : Prop where
  upper : num < den * 2 ^ (53 + k)
  lower : k = 0 ∨ den * 2 ^ (52 + k) ≤ num

theorem inUnits_eq (num den : Nat) (e : Int) :
    inUnits num den e = (num * 2 ^ (-e).toNat, den * 2 ^ e.toNat) := by
  unfold inUnits
  split
  · rw [show e.natAbs = (-e).toNat by omega, show e.toNat = 0 by omega, Nat.shiftLeft_eq,
      Nat.pow_zero, Nat.mul_one]
  · rw [show e.natAbs = e.toNat by omega, show (-e).toNat = 0 by omega, Nat.shiftLeft_eq,
      Nat.pow_zero, Nat.mul_one]

theorem quotientOf_eq (m : Nat) (e : Int) : quotientOf m e = (m * 2 ^ e.toNat, 2 ^ (-e).toNat) := by
  unfold quotientOf
  split
  · rw [show e.natAbs = (-e).toNat by omega, show e.toNat = 0 by omega, Nat.shiftLeft_eq,
      Nat.pow_zero, Nat.mul_one, Nat.one_mul]
  · rw [show e.natAbs = e.toNat by omega, show (-e).toNat = 0 by omega, Nat.shiftLeft_eq,
      Nat.pow_zero]

/-- A greater quotient has no smaller unit. -/
theorem IsSpan.mono {a b c d k l : Nat} (hk : IsSpan a b k) (hl : IsSpan c d l) (hb : 0 < b)
    (h : a * d ≤ c * b) : k ≤ l := by
  rcases hk.lower with rfl | low
  · exact Nat.zero_le l
  have chain : b * d * 2 ^ (52 + k) < b * d * 2 ^ (53 + l) := by
    calc b * d * 2 ^ (52 + k) = b * 2 ^ (52 + k) * d := Nat.mul_right_comm _ _ _
      _ ≤ a * d := Nat.mul_le_mul_right d low
      _ ≤ c * b := h
      _ < d * 2 ^ (53 + l) * b := Nat.mul_lt_mul_of_pos_right hl.upper hb
      _ = b * d * 2 ^ (53 + l) := by rw [Nat.mul_right_comm, Nat.mul_comm d b]
  have := (Nat.pow_lt_pow_iff_right (by decide)).mp (Nat.lt_of_mul_lt_mul_left chain)
  omega

theorem IsSpan.unique {a b c d k l : Nat} (hk : IsSpan a b k) (hl : IsSpan c d l) (hb : 0 < b)
    (hd : 0 < d) (h : a * d = c * b) : k = l :=
  Nat.le_antisymm (hk.mono hl hb (Nat.le_of_eq h)) (hl.mono hk hd (Nat.le_of_eq h.symm))

/-- Whether a quotient has more than fifty-three digits before the point in a unit. -/
theorem full_iff {num den : Nat} (hd : 0 < den) (e : Int) :
    1 <<< 53 ≤ (inUnits num den e).1 / (inUnits num den e).2 ↔
      den * 2 ^ (53 + e.toNat) ≤ num * 2 ^ (-e).toNat := by
  rw [inUnits_eq, Nat.le_div_iff_mul_le (Nat.mul_pos hd (Nat.two_pow_pos _)), Nat.one_shiftLeft,
    Nat.mul_left_comm, ← Nat.pow_add]

/-- A quotient with no more digits than that in a unit has no more in a greater one, -/
theorem upper_of_short {num den k : Nat} {e : Int}
    (short : num * 2 ^ (-e).toNat < den * 2 ^ (53 + e.toNat)) (h : e + 1074 ≤ k) :
    num * 2 ^ unitSpan < den * 2 ^ (53 + k) := by
  have unit := unitSpan_eq
  refine Nat.lt_of_mul_lt_mul_right (a := 2 ^ (-e).toNat) ?_
  calc num * 2 ^ unitSpan * 2 ^ (-e).toNat
      = num * 2 ^ (-e).toNat * 2 ^ unitSpan := Nat.mul_right_comm _ _ _
    _ < den * 2 ^ (53 + e.toNat) * 2 ^ unitSpan :=
        Nat.mul_lt_mul_of_pos_right short (Nat.two_pow_pos _)
    _ = den * 2 ^ (53 + e.toNat + unitSpan) := by rw [Nat.mul_assoc, two_pow_mul rfl]
    _ ≤ den * 2 ^ (53 + k + (-e).toNat) :=
        Nat.mul_le_mul_left _ (Nat.pow_le_pow_right (by decide) (by omega))
    _ = den * 2 ^ (53 + k) * 2 ^ (-e).toNat := by rw [Nat.mul_assoc, two_pow_mul rfl]

/-- and one with more has as many in the next. -/
theorem lower_of_long {num den k : Nat} {e : Int}
    (long : den * 2 ^ (53 + e.toNat) ≤ num * 2 ^ (-e).toNat) (h : e + 1 + 1074 = k) :
    den * 2 ^ (52 + k) ≤ num * 2 ^ unitSpan := by
  have unit := unitSpan_eq
  refine Nat.le_of_mul_le_mul_right (?_ : _ * 2 ^ (-e).toNat ≤ _) (Nat.two_pow_pos _)
  calc den * 2 ^ (52 + k) * 2 ^ (-e).toNat
      = den * 2 ^ (53 + e.toNat + unitSpan) := by
        rw [Nat.mul_assoc, two_pow_mul (c := 53 + e.toNat + unitSpan) (by omega)]
    _ = den * 2 ^ (53 + e.toNat) * 2 ^ unitSpan := by rw [Nat.mul_assoc, two_pow_mul rfl]
    _ ≤ num * 2 ^ (-e).toNat * 2 ^ unitSpan := Nat.mul_le_mul_right _ long
    _ = num * 2 ^ unitSpan * 2 ^ (-e).toNat := Nat.mul_right_comm _ _ _

/-- **The unit that is chosen for a quotient is the right one.** The leading digits tell it up to
one. -/
theorem isSpan_unitFor {num den : Nat} (hn : num ≠ 0) (hd : den ≠ 0) :
    minExponent ≤ unitFor num den ∧
      IsSpan (num * 2 ^ unitSpan) den (unitFor num den + 1074).toNat := by
  have unit := unitSpan_eq
  have num_low := Nat.log2_self_le hn
  have num_high := Nat.lt_log2_self (n := num)
  have den_low := Nat.log2_self_le hd
  have den_high := Nat.lt_log2_self (n := den)
  have full := @full_iff num den (Nat.pos_of_ne_zero hd)
    ((Nat.log2 num : Int) - Nat.log2 den - 53)
  unfold unitFor minExponent
  dsimp only
  generalize Nat.log2 num = i at *
  generalize Nat.log2 den = j at *
  generalize hg : (i : Int) - j - 53 = g at *
  by_cases long : 1 <<< 53 ≤ (inUnits num den g).1 / (inUnits num den g).2
  · rw [if_pos long]
    generalize hk : (max (-1074) (g + 1) + 1074).toNat = k
    refine ⟨Int.le_max_left _ _, ?_, ?_⟩
    · calc num * 2 ^ unitSpan < 2 ^ (i + 1) * 2 ^ unitSpan :=
            Nat.mul_lt_mul_of_pos_right num_high (Nat.two_pow_pos _)
        _ = 2 ^ (i + 1 + unitSpan) := two_pow_mul rfl
        _ ≤ 2 ^ (j + (53 + k)) := Nat.pow_le_pow_right (by decide) (by omega)
        _ = 2 ^ j * 2 ^ (53 + k) := (two_pow_mul rfl).symm
        _ ≤ den * 2 ^ (53 + k) := Nat.mul_le_mul_right _ den_low
    · exact or_iff_not_imp_left.mpr fun above => lower_of_long (full.mp long) (by omega)
  · rw [if_neg long]
    generalize hk : (max (-1074) g + 1074).toNat = k
    have short := Nat.lt_of_not_le (mt full.mpr long)
    refine ⟨Int.le_max_left _ _, upper_of_short short (by omega), ?_⟩
    refine or_iff_not_imp_left.mpr fun above => ?_
    calc den * 2 ^ (52 + k) ≤ 2 ^ (j + 1) * 2 ^ (52 + k) :=
          Nat.mul_le_mul_right _ (Nat.le_of_lt den_high)
      _ = 2 ^ i * 2 ^ unitSpan := by
          rw [two_pow_mul (c := i + unitSpan) (by omega), two_pow_mul rfl]
      _ ≤ num * 2 ^ unitSpan := Nat.mul_le_mul_right _ num_low

/-! ## 3. Rounding in the unit -/

/-- **A quotient is rounded in its unit.** -/
theorem ofQuotient_eq (num : Nat) {den : Nat} (hd : 0 < den) :
    ∃ k, IsSpan (num * 2 ^ unitSpan) den k ∧ ofQuotient false num den =
      ofMantissa false (roundQuotient (num * 2 ^ unitSpan) (den * 2 ^ k)) ((k : Int) - 1074) := by
  rcases Nat.eq_zero_or_pos num with rfl | hn
  · refine ⟨0, ⟨?_, .inl rfl⟩, ?_⟩
    · rw [Nat.zero_mul]
      exact Nat.mul_pos hd (Nat.two_pow_pos _)
    · rw [Nat.zero_mul, show roundQuotient 0 (den * 2 ^ 0) = 0 by simp [roundQuotient, hd]]
      rfl
  · have unit := unitSpan_eq
    have hn := Nat.ne_of_gt hn
    obtain ⟨low, span⟩ := isSpan_unitFor hn (Nat.ne_of_gt hd)
    rw [ofQuotient, if_neg hn]
    generalize unitFor num den = e at low span ⊢
    unfold minExponent at low
    refine ⟨_, span, ?_⟩
    dsimp only
    rw [inUnits_eq]
    generalize hk : (e + 1074).toNat = k
    rw [show (k : Int) - 1074 = e by omega]
    refine congrArg (ofMantissa false · e) (roundQuotient_congr ?_ ?_ ?_)
    · exact Nat.mul_pos hd (Nat.two_pow_pos _)
    · exact Nat.mul_pos hd (Nat.two_pow_pos _)
    · calc num * 2 ^ (-e).toNat * (den * 2 ^ k)
          = num * den * (2 ^ (-e).toNat * 2 ^ k) := Nat.mul_mul_mul_comm _ _ _ _
        _ = num * den * (2 ^ unitSpan * 2 ^ e.toNat) := by
            rw [two_pow_mul (c := unitSpan + e.toNat) (by omega), two_pow_mul rfl]
        _ = num * 2 ^ unitSpan * (den * 2 ^ e.toNat) := Nat.mul_mul_mul_comm _ _ _ _

/-- Equal quotients become the same number. -/
theorem ofQuotient_congr {a b c d : Nat} (hb : 0 < b) (hd : 0 < d) (h : a * d = c * b) :
    ofQuotient false a b = ofQuotient false c d := by
  obtain ⟨k, hk, left⟩ := ofQuotient_eq a hb
  obtain ⟨l, hl, right⟩ := ofQuotient_eq c hd
  have scaled : a * 2 ^ unitSpan * d = c * 2 ^ unitSpan * b := by
    rw [Nat.mul_right_comm, h, Nat.mul_right_comm]
  obtain rfl : k = l := hk.unique hl hb hd scaled
  have mantissas : roundQuotient (a * 2 ^ unitSpan) (b * 2 ^ k) =
      roundQuotient (c * 2 ^ unitSpan) (d * 2 ^ k) := by
    refine roundQuotient_congr (Nat.mul_pos hb (Nat.two_pow_pos k))
      (Nat.mul_pos hd (Nat.two_pow_pos k)) ?_
    rw [← Nat.mul_assoc, scaled, Nat.mul_assoc]
  rw [left, right, mantissas]

namespace IsSpan

variable {a b c d k l : Nat}

/-- The mantissa in the unit has fifty-three digits, unless it is the least unit. -/
theorem mantissa_bounds (hk : IsSpan a b k) (hb : 0 < b) :
    roundQuotient a (b * 2 ^ k) ≤ 2 ^ 53 ∧ (k = 0 ∨ 2 ^ 52 ≤ roundQuotient a (b * 2 ^ k)) := by
  have positive := Nat.mul_pos hb (Nat.two_pow_pos k)
  constructor
  · calc roundQuotient a (b * 2 ^ k) ≤ roundQuotient (2 ^ 53) 1 := by
          refine roundQuotient_le positive Nat.one_pos ?_
          rw [Nat.mul_one, Nat.mul_left_comm, two_pow_mul rfl]
          exact Nat.le_of_lt hk.upper
      _ = 2 ^ 53 := roundQuotient_one _
  · refine hk.lower.imp_right fun low => ?_
    calc 2 ^ 52 = roundQuotient (2 ^ 52) 1 := (roundQuotient_one _).symm
      _ ≤ roundQuotient a (b * 2 ^ k) := by
          refine roundQuotient_le Nat.one_pos positive ?_
          rwa [Nat.mul_one, Nat.mul_left_comm, two_pow_mul rfl]

/-- A greater quotient is not rounded to less, whatever their units. -/
theorem rounded_mono (hk : IsSpan a b k) (hl : IsSpan c d l) (hb : 0 < b) (hd : 0 < d)
    (h : a * d ≤ c * b) :
    roundQuotient a (b * 2 ^ k) * 2 ^ k ≤ roundQuotient c (d * 2 ^ l) * 2 ^ l := by
  rcases Nat.lt_or_eq_of_le (hk.mono hl hb h) with less | rfl
  · have low := (hl.mantissa_bounds hd).2.resolve_left (by omega)
    calc _ ≤ 2 ^ 53 * 2 ^ k := Nat.mul_le_mul_right _ (hk.mantissa_bounds hb).1
      _ = 2 ^ (53 + k) := two_pow_mul rfl
      _ ≤ 2 ^ (52 + l) := Nat.pow_le_pow_right (by decide) (by omega)
      _ = 2 ^ 52 * 2 ^ l := (two_pow_mul rfl).symm
      _ ≤ _ := Nat.mul_le_mul_right _ low
  · refine Nat.mul_le_mul_right _ (roundQuotient_le (Nat.mul_pos hb (Nat.two_pow_pos k))
      (Nat.mul_pos hd (Nat.two_pow_pos k)) ?_)
    rw [← Nat.mul_assoc, ← Nat.mul_assoc]
    exact Nat.mul_le_mul_right _ h

end IsSpan

/-- A full mantissa with an exponent, infinity where that is past the greatest. -/
theorem plain_capped {q : Nat} {e : Int} (low : 2 ^ 52 ≤ q) (high : q < 2 ^ 53)
    (he : minExponent ≤ e) :
    Plain (if e ≤ maxExponent then finite false q e else infinite false) ∧
      (if e ≤ maxExponent then finite false q e else infinite false).size =
        min (q * 2 ^ (e + 1074).toNat) topSize := by
  split
  · rename_i fits
    have small := Nat.le_of_lt (size_lt_topSize high fits)
    exact ⟨.finite q e high he fits, (Nat.min_eq_left small).symm⟩
  · rename_i past
    have span := exponentSpan_eq
    unfold maxExponent at past
    refine ⟨.infinite, (Nat.min_eq_right ?_).symm⟩
    calc topSize = 2 ^ 52 * 2 ^ (exponentSpan + 1) := (two_pow_mul (by omega)).symm
      _ ≤ q * 2 ^ (e + 1074).toNat :=
          Nat.mul_le_mul low (Nat.pow_le_pow_right (by decide) (by omega))

/-- Bringing a mantissa to normal form keeps its size, up to infinity. -/
theorem plain_ofMantissa {q : Nat} {e : Int} (low : 2 ^ 52 ≤ q) (high : q ≤ 2 ^ 53)
    (he : minExponent ≤ e) :
    Plain (ofMantissa false q e) ∧
      (ofMantissa false q e).size = min (q * 2 ^ (e + 1074).toNat) topSize := by
  have positive : q ≠ 0 := by omega
  rw [ofMantissa, if_neg positive]
  rcases Nat.lt_or_eq_of_le high with below | rfl
  · rw [if_pos (by simpa using below)]
    exact plain_capped low below he
  · -- rounding has carried: half the mantissa in twice the unit
    have same : 2 ^ 52 * 2 ^ (e + 1 + 1074).toNat = 2 ^ 53 * 2 ^ (e + 1074).toNat := by
      unfold minExponent at he
      have next : (e + 1 + 1074).toNat = 1 + (e + 1074).toNat := by omega
      rw [next, Nat.pow_add, ← Nat.mul_assoc, two_pow_mul rfl]
    rw [if_neg (by decide), ← same]
    exact plain_capped (Nat.le_refl _) (by decide) (by omega)

/-- A mantissa in a unit keeps its size in normal form, up to infinity. -/
theorem plain_ofSpan {q k : Nat} (high : q ≤ 2 ^ 53) (low : k = 0 ∨ 2 ^ 52 ≤ q) :
    Plain (ofMantissa false q ((k : Int) - 1074)) ∧
      (ofMantissa false q ((k : Int) - 1074)).size = min (q * 2 ^ k) topSize := by
  have above : minExponent ≤ (k : Int) - 1074 := by
    unfold minExponent
    omega
  have unit : ((k : Int) - 1074 + 1074).toNat = k := by omega
  rcases Nat.lt_or_ge q (2 ^ 52) with small | full
  · obtain rfl : k = 0 := low.resolve_right (Nat.not_le.mpr small)
    have mantissa : q < 2 ^ 53 := Nat.lt_trans small (by decide)
    have plain : Plain (.finite false q ((0 : Nat) - 1074)) :=
      .finite q _ mantissa above (by decide)
    have is : ofMantissa false q ((0 : Nat) - 1074) = .finite false q ((0 : Nat) - 1074) := by
      rw [ofMantissa]
      split
      · subst q
        rfl
      · rw [if_pos (by simpa using mantissa), if_pos (by decide)]
    rw [is]
    refine ⟨plain, (Nat.min_eq_left ?_).symm⟩
    exact Nat.le_of_lt (size_lt_topSize (e := (0 : Nat) - 1074) mantissa (by decide))
  · have normal := plain_ofMantissa full high above
    rwa [unit] at normal

/-- The size of the number nearest to a quotient. -/
theorem plain_ofQuotient (num : Nat) {den : Nat} (hd : 0 < den) :
    Plain (ofQuotient false num den) ∧ ∃ k, IsSpan (num * 2 ^ unitSpan) den k ∧
      (ofQuotient false num den).size =
        min (roundQuotient (num * 2 ^ unitSpan) (den * 2 ^ k) * 2 ^ k) topSize := by
  obtain ⟨k, span, eq⟩ := ofQuotient_eq num hd
  obtain ⟨high, low⟩ := span.mantissa_bounds hd
  obtain ⟨plain, size⟩ := plain_ofSpan high low
  rw [eq]
  exact ⟨plain, k, span, size⟩

/-- **Rounding keeps the order of quotients.** -/
theorem size_ofQuotient_mono {a b c d : Nat} (hb : 0 < b) (hd : 0 < d) (h : a * d ≤ c * b) :
    (ofQuotient false a b).size ≤ (ofQuotient false c d).size := by
  obtain ⟨-, k, hk, left⟩ := plain_ofQuotient a hb
  obtain ⟨-, l, hl, right⟩ := plain_ofQuotient c hd
  have rounded := hk.rounded_mono hl hb hd (by
    rw [Nat.mul_right_comm, Nat.mul_right_comm c]
    exact Nat.mul_le_mul_right _ h)
  rw [left, right]
  omega

/-! ## 4. Sums and quotients of numbers -/

/-- **A quotient is that of the sizes.** -/
theorem div_eq {x y : Binary64} (hx : Measured x) (hy : Measured y) (h : 0 < y.size) :
    x.div y = ofQuotient false x.size y.size := by
  obtain ⟨m, e, -, low, -⟩ := hx
  obtain ⟨n, f, -, low', -⟩ := hy
  unfold minExponent at low low'
  have positive : 0 < n := Nat.pos_of_mul_pos_right h
  rw [div, if_neg (Nat.ne_of_gt positive), quotientOf_eq]
  refine ofQuotient_congr (Nat.mul_pos (Nat.two_pow_pos _) positive) h ?_
  rw [size, size]
  calc m * 2 ^ (e - f).toNat * (n * 2 ^ (f + 1074).toNat)
      = m * n * (2 ^ (e - f).toNat * 2 ^ (f + 1074).toNat) := Nat.mul_mul_mul_comm _ _ _ _
    _ = m * n * (2 ^ (e + 1074).toNat * 2 ^ (-(e - f)).toNat) := by
        rw [← Nat.pow_add, ← Nat.pow_add]
        congr 2
        omega
    _ = m * 2 ^ (e + 1074).toNat * (n * 2 ^ (-(e - f)).toNat) := Nat.mul_mul_mul_comm _ _ _ _
    _ = m * 2 ^ (e + 1074).toNat * (2 ^ (-(e - f)).toNat * n) := by rw [Nat.mul_comm n]

theorem size_eq_scaled {m : Nat} {e unit : Int} (low : minExponent ≤ unit) (h : unit ≤ e) :
    (Binary64.finite false m e).size = m <<< (e - unit).toNat * 2 ^ (unit + 1074).toNat := by
  unfold minExponent at low
  rw [size, Nat.shiftLeft_eq, Nat.mul_assoc,
    two_pow_mul (c := (e + 1074).toNat) (by omega)]

/-- **A sum is that of the sizes.** -/
theorem add_eq {x y : Binary64} (hx : Measured x) (hy : Measured y) :
    x.add y = ofQuotient false (x.size + y.size) (2 ^ unitSpan) := by
  obtain ⟨m, e, -, low, -⟩ := hx
  obtain ⟨n, f, -, low', -⟩ := hy
  have unit := unitSpan_eq
  have least : minExponent ≤ min e f := le_min low low'
  rw [add, size_eq_scaled least (Int.min_le_left e f), size_eq_scaled least (Int.min_le_right e f),
    ← Nat.add_mul]
  unfold scaled minExponent at *
  simp only [Bool.false_eq_true, if_false, Bool.and_self, ← Int.natCast_add]
  generalize m <<< (e - min e f).toNat + n <<< (f - min e f).toNat = sum
  generalize min e f = u at *
  split
  · rename_i none
    rw [Int.natCast_eq_zero.mp none, Nat.zero_mul]
    rfl
  · rw [quotientOf_eq, Int.natAbs_natCast, decide_eq_false (by omega)]
    refine ofQuotient_congr (Nat.two_pow_pos _) (Nat.two_pow_pos _) ?_
    rw [Nat.mul_assoc, Nat.mul_assoc, two_pow_mul (c := u.toNat + unitSpan) rfl,
      two_pow_mul (c := u.toNat + unitSpan) (by omega)]

end Binary64

end Logworks.Number
