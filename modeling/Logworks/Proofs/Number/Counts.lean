import Logworks.Proofs.Number.Quotients

/-!
# Counts in double precision

A count becomes a number of double precision by rounding to fifty-three binary digits. That keeps
the order, but two counts may become the same number. This file fixes

* `roundCount` -- a count rounded to fifty-three binary digits; `plain_ofNat` -- **that is what a
  count becomes**;
* `size_ofNat_mono` -- **the order is kept**; `add_ofNat` -- sums up to `2^53` are not rounded;
* `Blurred` -- a count and a greater one that become the same number; `le_ofNat_iff`,
  `lt_ofNat_iff` -- **comparisons of counts in double precision are right but for these**;
* `not_blurred` -- there are none up to `2^53`.
-/

namespace Logworks.Number

namespace Binary64

/-! ## 1. Rounded counts -/

/-- A count rounded to fifty-three binary digits. -/
def roundCount (n : Nat) : Nat :=
  roundQuotient n (2 ^ (n.log2 - 52)) * 2 ^ (n.log2 - 52)

theorem roundCount_small {n : Nat} (h : n.log2 ≤ 52) : roundCount n = n := by
  have none : n.log2 - 52 = 0 := by omega
  rw [roundCount, none, Nat.pow_zero, Nat.mul_one, roundQuotient_one]

/-- The unit of a count is told by its leading digit. -/
theorem isSpan_count {n : Nat} (h : n ≠ 0) :
    IsSpan (n * 2 ^ unitSpan) 1 (n.log2 + unitSpan - 52) := by
  have unit := unitSpan_eq
  refine ⟨?_, .inr ?_⟩
  · calc n * 2 ^ unitSpan < 2 ^ (n.log2 + 1) * 2 ^ unitSpan :=
          Nat.mul_lt_mul_of_pos_right Nat.lt_log2_self (Nat.two_pow_pos _)
      _ = 2 ^ (53 + (n.log2 + unitSpan - 52)) := two_pow_mul (by omega)
      _ = 1 * 2 ^ (53 + (n.log2 + unitSpan - 52)) := (Nat.one_mul _).symm
  · calc 1 * 2 ^ (52 + (n.log2 + unitSpan - 52)) = 2 ^ (52 + (n.log2 + unitSpan - 52)) :=
          Nat.one_mul _
      _ = 2 ^ n.log2 * 2 ^ unitSpan := (two_pow_mul (by omega)).symm
      _ ≤ n * 2 ^ unitSpan := Nat.mul_le_mul_right _ (Nat.log2_self_le h)

/-- A count rounded in its unit. -/
theorem rounded_count (n : Nat) :
    roundQuotient (n * 2 ^ unitSpan) (1 * 2 ^ (n.log2 + unitSpan - 52)) *
      2 ^ (n.log2 + unitSpan - 52) = roundCount n * 2 ^ unitSpan := by
  have unit := unitSpan_eq
  rw [Nat.one_mul]
  rcases Nat.lt_or_ge n.log2 52 with small | large
  · -- the unit is below one
    have whole : n * 2 ^ unitSpan = n * 2 ^ (52 - n.log2) * 2 ^ (n.log2 + unitSpan - 52) := by
      rw [Nat.mul_assoc, two_pow_mul (c := unitSpan) (by omega)]
    rw [whole, roundQuotient_mul _ (Nat.two_pow_pos _), ← whole, roundCount_small (by omega)]
  · have split : 2 ^ (n.log2 + unitSpan - 52) = 2 ^ (n.log2 - 52) * 2 ^ unitSpan :=
      (two_pow_mul (by omega)).symm
    rw [split, roundQuotient_mul_right _ _ (Nat.two_pow_pos _), roundCount, Nat.mul_assoc]

/-- **A count becomes the number of its rounding**, and infinity past all. -/
theorem plain_ofNat (n : Nat) :
    Plain (ofNat n) ∧ (ofNat n).size = min (roundCount n * 2 ^ unitSpan) topSize := by
  obtain ⟨plain, k, span, size⟩ := plain_ofQuotient n Nat.one_pos
  refine ⟨plain, size.trans ?_⟩
  rcases Nat.eq_zero_or_pos n with rfl | h
  · rw [Nat.zero_mul, show roundCount 0 = 0 from roundCount_small (by decide)]
    simp [roundQuotient]
  · obtain rfl := span.unique (isSpan_count (Nat.ne_of_gt h)) Nat.one_pos Nat.one_pos rfl
    rw [rounded_count]

theorem roundCount_bounds {n : Nat} (h : n ≠ 0) :
    2 ^ n.log2 ≤ roundCount n ∧ roundCount n ≤ 2 ^ (n.log2 + 1) := by
  have unit := unitSpan_eq
  have rounded := rounded_count n
  obtain ⟨high, low⟩ := (isSpan_count h).mantissa_bounds Nat.one_pos
  have low := low.resolve_left (by omega)
  generalize hk : n.log2 + unitSpan - 52 = k at *
  constructor
  · refine Nat.le_of_mul_le_mul_right (?_ : _ * 2 ^ unitSpan ≤ _) (Nat.two_pow_pos unitSpan)
    calc 2 ^ n.log2 * 2 ^ unitSpan = 2 ^ (52 + k) := two_pow_mul (by omega)
      _ = 2 ^ 52 * 2 ^ k := (two_pow_mul rfl).symm
      _ ≤ _ := Nat.mul_le_mul_right _ low
      _ = roundCount n * 2 ^ unitSpan := rounded
  · refine Nat.le_of_mul_le_mul_right (?_ : _ * 2 ^ unitSpan ≤ _) (Nat.two_pow_pos unitSpan)
    calc roundCount n * 2 ^ unitSpan = _ := rounded.symm
      _ ≤ 2 ^ 53 * 2 ^ k := Nat.mul_le_mul_right _ high
      _ = 2 ^ (53 + k) := two_pow_mul rfl
      _ = 2 ^ (n.log2 + 1) * 2 ^ unitSpan := (two_pow_mul (by omega)).symm

theorem roundCount_of_le {n : Nat} (h : n ≤ 2 ^ 53) : roundCount n = n := by
  rcases Nat.lt_or_eq_of_le h with below | rfl
  · rcases Nat.eq_zero_or_pos n with rfl | hn
    · exact roundCount_small (by decide)
    · refine roundCount_small ?_
      have := (Nat.log2_lt (Nat.ne_of_gt hn)).mpr below
      omega
  · decide

/-! ## 2. The size of a count -/

/-- **Rounding keeps the order of counts.** -/
theorem size_ofNat_mono {a b : Nat} (h : a ≤ b) : (ofNat a).size ≤ (ofNat b).size :=
  size_ofQuotient_mono Nat.one_pos Nat.one_pos (Nat.mul_le_mul_right 1 h)

theorem size_ofNat_pos {n : Nat} (h : n ≠ 0) : 0 < (ofNat n).size := by
  rw [(plain_ofNat n).2, lt_min_iff]
  have rounded := Nat.lt_of_lt_of_le (Nat.two_pow_pos n.log2) (roundCount_bounds h).1
  exact ⟨Nat.mul_pos rounded (Nat.two_pow_pos _), Nat.two_pow_pos _⟩

theorem isZero_ofNat (n : Nat) : (ofNat n).isZero = decide (n = 0) := by
  rcases Nat.eq_zero_or_pos n with rfl | h
  · rfl
  · have h := Nat.ne_of_gt h
    rw [decide_eq_false h, Bool.eq_false_iff]
    intro none
    have positive := size_ofNat_pos h
    cases hx : ofNat n with
    | nan | infinite s => rw [hx] at none; cases none
    | finite s m e =>
      rw [hx] at none positive
      rw [size, beq_iff_eq.mp none, Nat.zero_mul] at positive
      exact Nat.lt_irrefl 0 positive

/-- Counts of sixty-four bits are far from infinity. -/
theorem size_ofNat_lt {n : Nat} (h : n < 2 ^ 64) : (ofNat n).size < topSize := by
  rw [(plain_ofNat n).2]
  refine Nat.lt_of_le_of_lt (Nat.min_le_left _ _) ?_
  have rounded : roundCount n ≤ 2 ^ 64 := by
    rcases Nat.eq_zero_or_pos n with rfl | hn
    · decide
    · have hn := Nat.ne_of_gt hn
      refine Nat.le_trans (roundCount_bounds hn).2 (Nat.pow_le_pow_right (by decide) ?_)
      have := (Nat.log2_lt hn).mpr h
      omega
  have unit := unitSpan_eq
  have span := exponentSpan_eq
  calc roundCount n * 2 ^ unitSpan ≤ 2 ^ 64 * 2 ^ unitSpan := Nat.mul_le_mul_right _ rounded
    _ = 2 ^ (64 + unitSpan) := two_pow_mul rfl
    _ < topSize := Nat.pow_lt_pow_right (by decide) (by omega)

theorem measured_ofNat {n : Nat} (h : n < 2 ^ 64) : Measured (ofNat n) :=
  (plain_ofNat n).1.measured (size_ofNat_lt h)

theorem size_ofNat_of_le {n : Nat} (h : n ≤ 2 ^ 53) : (ofNat n).size = n * 2 ^ unitSpan := by
  have finite := size_ofNat_lt (Nat.lt_of_le_of_lt h (by decide))
  rw [(plain_ofNat n).2, roundCount_of_le h] at finite ⊢
  omega

/-- Counts that come to `2^53` at most are added without rounding. -/
theorem add_ofNat {m n : Nat} (h : m + n ≤ 2 ^ 53) : (ofNat m).add (ofNat n) = ofNat (m + n) := by
  have hm : m ≤ 2 ^ 53 := by omega
  have hn : n ≤ 2 ^ 53 := by omega
  have few {k : Nat} (hk : k ≤ 2 ^ 53) : k < 2 ^ 64 := Nat.lt_of_le_of_lt hk (by decide)
  rw [add_eq (measured_ofNat (few hm)) (measured_ofNat (few hn)), size_ofNat_of_le hm,
    size_ofNat_of_le hn, ← Nat.add_mul, ofNat]
  exact ofQuotient_congr (Nat.two_pow_pos _) Nat.one_pos (Nat.mul_one _)

/-! ## 3. Comparing counts -/

/-- Two counts that become the same number. -/
def Blurred (a b : Nat) : Prop := a < b ∧ (ofNat a).eqv (ofNat b) = true

instance (a b : Nat) : Decidable (Blurred a b) := inferInstanceAs (Decidable (_ ∧ _))

/-- **A count is not below another in double precision** if it is not, or is blurred with it. -/
theorem le_ofNat_iff (a b : Nat) : (ofNat b).le (ofNat a) = true ↔ b ≤ a ∨ Blurred a b := by
  rw [le_iff_size (plain_ofNat b).1 (plain_ofNat a).1, Blurred,
    eqv_iff_size (plain_ofNat a).1 (plain_ofNat b).1]
  rcases Nat.lt_or_ge a b with less | more
  · have := size_ofNat_mono (Nat.le_of_lt less)
    omega
  · have := size_ofNat_mono more
    omega

/-- **A count is above another in double precision** if it is, and is not blurred with it. -/
theorem lt_ofNat_iff (a b : Nat) : (ofNat b).lt (ofNat a) = true ↔ b < a ∧ ¬ Blurred b a := by
  rw [lt_iff_size (plain_ofNat b).1 (plain_ofNat a).1, Blurred,
    eqv_iff_size (plain_ofNat b).1 (plain_ofNat a).1]
  rcases Nat.lt_or_ge b a with more | less
  · have := size_ofNat_mono (Nat.le_of_lt more)
    omega
  · have := size_ofNat_mono less
    omega

/-- Counts up to `2^53` are exact. -/
theorem not_blurred {a b : Nat} (h : b ≤ 2 ^ 53) : ¬ Blurred a b := by
  rintro ⟨less, same⟩
  rw [eqv_iff_size (plain_ofNat a).1 (plain_ofNat b).1, size_ofNat_of_le h,
    size_ofNat_of_le (Nat.le_of_lt (Nat.lt_of_lt_of_le less h))] at same
  exact Nat.ne_of_lt less (Nat.eq_of_mul_eq_mul_right (Nat.two_pow_pos unitSpan) same)

/-- Past that they need not be. -/
example : Blurred (2 ^ 53) (2 ^ 53 + 1) := by decide

end Binary64

end Logworks.Number
