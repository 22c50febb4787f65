import Logworks.Proofs.Health.Agreement
import Mathlib.Algebra.Order.Field.Basic
import Mathlib.Tactic.NormNum

/-!
# The order of grades

The shares that a logger is graded by are quotients of counts. What is worked out is said here for
any arithmetic: in double precision it is what reports do, and in fractions it is what they mean.
A share is never a division by zero, and more of what is a fault never earns a better grade. This
file fixes

* `Arithmetic` -- numbers to work out shares in, with `Arithmetic.doubles` and `Arithmetic.exact`;
* `check?_eq_doubles`, `grade_ofRates`, `doubles_dropRate?` -- **in double precision that is what
  reports and metrics do**;
* `Aggravated` -- a snapshot that counts more of what is a fault; `SharesUnder.grade_mono` --
  **grades go up with the shares**, whatever the thresholds;
* `grading_total_monotone` -- **what grading comes to and how it grows, in fractions and as it is
  done**;
* `grading_overflows` -- counters that cannot be added.
-/

namespace Logworks.Health

open Logworks.Number Logworks.Time

/-! ## 1. Shares in any arithmetic -/

/-- Numbers to work out shares in. -/
structure Arithmetic (α : Type) where
  ofNat : Nat → α
  add : α → α → α
  div : α → α → α
  isZero : α → Bool
  /-- A threshold is below a number, or at most that. -/
  below : Binary64 → α → Bool
  atMost : Binary64 → α → Bool

/-- The quantities that a logger is graded by. The latency is a count. -/
structure Shares (α : Type) where
  drop : α
  error : α
  latency : Nat
  usage : α

namespace Arithmetic

/-- Double precision. -/
def doubles : Arithmetic Binary64 where
  ofNat := Binary64.ofNat
  add := Binary64.add
  div := Binary64.div
  isZero := Binary64.isZero
  below := Binary64.lt
  atMost := Binary64.le

/-- Fractions. -/
def exact : Arithmetic ℚ where
  ofNat n := n
  add x y := x + y
  div x y := x / y
  isZero x := decide (x = 0)
  below := Binary64.below
  atMost := Binary64.atMost

variable {α : Type} (A : Arithmetic α)

/-- A quotient; there is none by zero. -/
def div? (x y : α) : Option α := if A.isZero y then none else some (A.div x y)

/-- A part of a whole; of nothing, 0. -/
def ratio? (part whole : Nat) : Option α :=
  if whole = 0 then some (A.ofNat 0) else A.div? (A.ofNat part) (A.ofNat whole)

/-- The shares of a snapshot, unless counters cannot be added or a whole comes to zero. -/
def shares? (s : Metrics.Snapshot) (capacity : Nat) : Option (Shares α) :=
  let attempts := s.logged + s.dropped
  if maxWord < attempts then none
  else do
    let drop ← A.ratio? s.dropped attempts
    let error ← A.ratio? s.errors s.logged
    let usage ← A.ratio? s.queueDepth capacity
    some ⟨drop, error, s.maxLatency, usage⟩

def tier (x : α) (first second : Binary64) : Grade :=
  if A.atMost second x then .unhealthy
  else if A.below first x then .degraded
  else .healthy

/-- The worst grade. The latency is graded in double precision: it is no share. -/
def grade (t : Thresholds) (x : Shares α) : Grade :=
  Grade.worst
    [A.tier x.drop t.dropHealthy t.dropDegraded,
     A.tier x.error t.errorHealthy t.errorDegraded,
     doubles.tier (.ofNat x.latency) (.ofNat t.latencyHealthy) (.ofNat t.latencyDegraded),
     A.tier x.usage t.usageHealthy t.usageDegraded]

/-- The drop rate as metrics have it: the counters are not added before they are numbers. -/
def dropRate? (m : Metrics) : Option α :=
  let total := A.add (A.ofNat m.logged) (A.ofNat m.dropped)
  if A.isZero total then some (A.ofNat 0) else A.div? (A.ofNat m.dropped) total

end Arithmetic

open Arithmetic

/-! ## 2. In double precision -/

def Shares.toRates (x : Shares Binary64) : Rates := ⟨x.drop, x.error, x.latency, x.usage⟩

/-- A whole that is not zero as a count is not zero in double precision. -/
theorem doubles_ratio? (part whole : Nat) :
    doubles.ratio? part whole = some (ratio part whole) := by
  unfold ratio? ratio
  split
  · rfl
  · rename_i counts
    have divisor : doubles.isZero (doubles.ofNat whole) = false :=
      (Binary64.isZero_ofNat whole).trans (decide_eq_false counts)
    rw [div?, divisor]
    rfl

/-- The shares in double precision. -/
def Shares.ofSnapshot (s : Metrics.Snapshot) (capacity : Nat) : Shares Binary64 :=
  ⟨ratio s.dropped (s.logged + s.dropped), ratio s.errors s.logged, s.maxLatency,
    ratio s.queueDepth capacity⟩

theorem doubles_shares? {s : Metrics.Snapshot} (fits : s.logged + s.dropped ≤ maxWord)
    (capacity : Nat) : doubles.shares? s capacity = some (.ofSnapshot s capacity) := by
  unfold shares?
  dsimp only
  rw [if_neg (Nat.not_lt.mpr fits)]
  simp only [doubles_ratio?]
  rfl

/-- **A report is on shares in double precision**, -/
theorem check?_eq_doubles (t : Thresholds) (s : Metrics.Snapshot) (capacity : Nat)
    (time : Instant) : Report.check? t s capacity time =
      (doubles.shares? s capacity).map fun x => .ofRates t s x.toRates time := by
  rcases Nat.lt_or_ge maxWord (s.logged + s.dropped) with many | fits
  · have crowded : doubles.shares? s capacity = none := if_pos many
    rw [crowded]
    exact congrArg (Option.map _) (if_pos many)
  · rw [doubles_shares? fits]
    exact congrArg (Option.map _) (if_neg (Nat.not_lt.mpr fits))

/-- **and has the grade of them.** -/
theorem grade_ofRates (t : Thresholds) (s : Metrics.Snapshot) (x : Shares Binary64)
    (time : Instant) : (Report.ofRates t s x.toRates time).grade = doubles.grade t x :=
  rfl

/-- **The drop rate in double precision is that of metrics.** -/
theorem doubles_dropRate? (m : Metrics) : doubles.dropRate? m = some m.dropRate := by
  by_cases idle : ((Binary64.ofNat m.logged).add (.ofNat m.dropped)).isZero = true
  · exact (if_pos idle).trans (congrArg some (if_pos idle).symm)
  · exact (if_neg idle).trans ((if_neg idle).trans (congrArg some (if_neg idle).symm))

/-! ## 3. What is worse -/

/-- The second snapshot counts as many records delivered as the first, and no less of what is a
fault. -/
structure Aggravated (s s' : Metrics.Snapshot) : Prop where
  logged : s'.logged = s.logged
  dropped : s.dropped ≤ s'.dropped
  errors : s.errors ≤ s'.errors
  latency : s.maxLatency ≤ s'.maxLatency
  depth : s.queueDepth ≤ s'.queueDepth

/-- A share of losses goes up with the losses: its quotients, multiplied out. -/
theorem lost_cross (logged : Nat) {dropped dropped' : Nat} (h : dropped ≤ dropped') :
    dropped * (logged + dropped') ≤ dropped' * (logged + dropped) := by
  rw [Nat.mul_add, Nat.mul_add, Nat.mul_comm dropped' dropped]
  exact Nat.add_le_add_right (Nat.mul_le_mul_right logged h) _

namespace Arithmetic

variable {α : Type} (A : Arithmetic α)

/-- Whatever is below the first number, or at most that, is so for the second. -/
def Under (x y : α) : Prop :=
  ∀ bound, (A.below bound x = true → A.below bound y = true) ∧
    (A.atMost bound x = true → A.atMost bound y = true)

theorem Under.refl (x : α) : A.Under x x := fun _ => ⟨id, id⟩

structure SharesUnder (x y : Shares α) : Prop where
  drop : A.Under x.drop y.drop
  error : A.Under x.error y.error
  latency : x.latency ≤ y.latency
  usage : A.Under x.usage y.usage

variable {A}

/-- The grade of one quantity, whatever the order of the thresholds. -/
theorem Under.tier {x y : α} (h : A.Under x y) (first second : Binary64) :
    (A.tier x first second).rank ≤ (A.tier y first second).rank := by
  unfold Arithmetic.tier
  obtain ⟨below, -⟩ := h first
  obtain ⟨-, atMost⟩ := h second
  by_cases high : A.atMost second x = true
  · rw [if_pos high, if_pos (atMost high)]
  · rw [if_neg high]
    by_cases raised : A.below first x = true
    · rw [if_pos raised, if_pos (below raised)]
      split <;> decide
    · rw [if_neg raised]
      exact Nat.zero_le _

theorem under_doubles {x y : Binary64} (hx : x.Plain) (hy : y.Plain) (h : x.size ≤ y.size) :
    doubles.Under x y :=
  Binary64.compare_mono hx hy h

theorem under_exact {x y : ℚ} (h : x ≤ y) : exact.Under x y :=
  fun bound => ⟨Binary64.below_mono h bound, Binary64.atMost_mono h bound⟩

/-- **The grade goes up with the shares**, whatever the thresholds. -/
theorem SharesUnder.grade_mono {x y : Shares α} (h : A.SharesUnder x y) (t : Thresholds) :
    (A.grade t x).rank ≤ (A.grade t y).rank := by
  have drop := h.drop.tier t.dropHealthy t.dropDegraded
  have error := h.error.tier t.errorHealthy t.errorDegraded
  have counts := under_doubles (Binary64.plain_ofNat x.latency).1 (Binary64.plain_ofNat y.latency).1
    (Binary64.size_ofNat_mono h.latency)
  have latency := counts.tier (.ofNat t.latencyHealthy) (.ofNat t.latencyDegraded)
  have usage := h.usage.tier t.usageHealthy t.usageDegraded
  simp only [grade, Grade.worst, List.foldl_cons, List.foldl_nil, Grade.rank_worse]
  omega

end Arithmetic

/-! ## 4. In fractions -/

section Exact

variable {s s' : Metrics.Snapshot} {capacity : Nat}

theorem exact_ratio? (part whole : Nat) : exact.ratio? part whole = some (part / whole : ℚ) := by
  unfold ratio?
  split
  · subst whole
    exact congrArg some (by simp [exact])
  · rename_i counts
    have divisor : exact.isZero (exact.ofNat whole) = false :=
      decide_eq_false (Nat.cast_ne_zero.mpr counts)
    rw [div?, divisor]
    rfl

theorem exact_shares? (fits : s.logged + s.dropped ≤ maxWord) (capacity : Nat) :
    exact.shares? s capacity = some ⟨s.dropped / (s.logged + s.dropped : Nat),
      s.errors / s.logged, s.maxLatency, s.queueDepth / capacity⟩ := by
  unfold shares?
  dsimp only
  rw [if_neg (Nat.not_lt.mpr fits)]
  simp only [exact_ratio?]
  rfl

theorem exact_dropRate? (m : Metrics) :
    exact.dropRate? m = some (m.dropped / (m.logged + m.dropped : Nat) : ℚ) := by
  have total : exact.add (exact.ofNat m.logged) (exact.ofNat m.dropped) =
      exact.ofNat (m.logged + m.dropped) := (Nat.cast_add _ _).symm
  rw [← exact_ratio?, dropRate?, ratio?, total]
  refine if_congr ?_ rfl rfl
  exact decide_eq_true_iff.trans Nat.cast_eq_zero

theorem part_mono {part part' : Nat} (h : part ≤ part') (whole : Nat) :
    (part / whole : ℚ) ≤ part' / whole :=
  div_le_div_of_nonneg_right (Nat.cast_le.mpr h) (Nat.cast_nonneg whole)

theorem lost_mono {logged dropped dropped' : Nat} (h : dropped ≤ dropped') :
    (dropped / (logged + dropped : Nat) : ℚ) ≤ dropped' / (logged + dropped' : Nat) := by
  rcases Nat.eq_zero_or_pos dropped with rfl | some
  · rw [Nat.cast_zero, zero_div]
    exact div_nonneg (Nat.cast_nonneg _) (Nat.cast_nonneg _)
  · have total : (0 : ℚ) < (logged + dropped : Nat) := Nat.cast_pos.mpr (by omega)
    have total' : (0 : ℚ) < (logged + dropped' : Nat) := Nat.cast_pos.mpr (by omega)
    rw [div_le_div_iff₀ total total']
    exact_mod_cast lost_cross logged h

theorem sharesUnder_exact (worse : Aggravated s s') (fits : s.logged + s.dropped ≤ maxWord)
    (fits' : s'.logged + s'.dropped ≤ maxWord) {x x' : Shares ℚ}
    (hx : exact.shares? s capacity = some x) (hx' : exact.shares? s' capacity = some x') :
    exact.SharesUnder x x' := by
  obtain rfl := Option.some.inj ((exact_shares? fits _).symm.trans hx)
  obtain rfl := Option.some.inj ((exact_shares? fits' _).symm.trans hx')
  refine ⟨?_, ?_, worse.latency, ?_⟩
  · rw [worse.logged]
    exact under_exact (lost_mono worse.dropped)
  · rw [worse.logged]
    exact under_exact (part_mono worse.errors _)
  · exact under_exact (part_mono worse.depth _)

/-- What shares in fractions say of a snapshot, and of worse ones. -/
structure JudgedExactly (t : Thresholds) (s : Metrics.Snapshot) (capacity : Nat) (x : Shares ℚ) :
    Prop where
  drop : x.drop = s.dropped / (s.logged + s.dropped)
  range : 0 ≤ x.drop ∧ x.drop ≤ 1
  alike : ∀ m : Metrics, m.logged = s.logged → m.dropped = s.dropped →
    exact.dropRate? m = some x.drop
  monotone : ∀ s', Aggravated s s' → s'.logged + s'.dropped ≤ maxWord →
    ∃ x', exact.shares? s' capacity = some x' ∧ (exact.grade t x).rank ≤ (exact.grade t x').rank

theorem judged_exactly (fits : s.logged + s.dropped ≤ maxWord) (t : Thresholds) :
    ∃ x, exact.shares? s capacity = some x ∧ JudgedExactly t s capacity x := by
  have shares := exact_shares? fits capacity
  refine ⟨_, shares, ?_, ⟨?_, ?_⟩, ?_, fun s' worse fits' => ?_⟩
  · rw [Nat.cast_add]
  · exact div_nonneg (Nat.cast_nonneg _) (Nat.cast_nonneg _)
  · exact div_le_one_of_le₀ (Nat.cast_le.mpr (Nat.le_add_left _ _)) (Nat.cast_nonneg _)
  · intro m logged dropped
    rw [exact_dropRate?, logged, dropped]
  · have shares' := exact_shares? fits' capacity
    exact ⟨_, shares', (sharesUnder_exact worse fits fits' shares shares').grade_mono t⟩

end Exact

/-! ## 5. As it is done -/

section Words

theorem lt_of_le_maxWord {n : Nat} (h : n ≤ maxWord) : n < 2 ^ 64 :=
  Nat.lt_of_le_of_lt h (by decide)

variable {part whole : Nat}

theorem ratio_eq (hp : part ≤ maxWord) (hw : whole ≤ maxWord) (some : whole ≠ 0) :
    ratio part whole = .ofQuotient false (Binary64.ofNat part).size (Binary64.ofNat whole).size :=
  (if_neg some).trans (Binary64.div_eq (Binary64.measured_ofNat (lt_of_le_maxWord hp))
    (Binary64.measured_ofNat (lt_of_le_maxWord hw)) (Binary64.size_ofNat_pos some))

theorem plain_zero : (Binary64.zero false).Plain := .finite 0 _ (by decide) (by decide) (by decide)

theorem size_zero : (Binary64.zero false).size = 0 := Nat.zero_mul _

theorem plain_ratio (hp : part ≤ maxWord) (hw : whole ≤ maxWord) : (ratio part whole).Plain := by
  by_cases idle : whole = 0
  · rw [ratio, if_pos idle]
    exact plain_zero
  · rw [ratio_eq hp hw idle]
    exact (Binary64.plain_ofQuotient _ (Binary64.size_ofNat_pos idle)).1

/-- A part is at most the whole. -/
theorem size_ratio_le_one (h : part ≤ whole) (hw : whole ≤ maxWord) :
    (ratio part whole).size ≤ (Binary64.ofNat 1).size := by
  by_cases idle : whole = 0
  · rw [ratio, if_pos idle, size_zero]
    exact Nat.zero_le _
  · rw [ratio_eq (Nat.le_trans h hw) hw idle]
    refine Binary64.size_ofQuotient_mono (Binary64.size_ofNat_pos idle) Nat.one_pos ?_
    rw [Nat.mul_one, Nat.one_mul]
    exact Binary64.size_ofNat_mono h

/-- Ratios compare as the sizes of their counts do, multiplied out. -/
theorem under_of_cross {part' whole' : Nat} (hp : part ≤ maxWord) (hw : whole ≤ maxWord)
    (hp' : part' ≤ maxWord) (hw' : whole' ≤ maxWord) (busy : whole ≠ 0 → whole' ≠ 0)
    (cross : (Binary64.ofNat part).size * (Binary64.ofNat whole').size ≤
      (Binary64.ofNat part').size * (Binary64.ofNat whole).size) :
    doubles.Under (ratio part whole) (ratio part' whole') := by
  refine under_doubles (plain_ratio hp hw) (plain_ratio hp' hw') ?_
  by_cases idle : whole = 0
  · rw [ratio, if_pos idle, size_zero]
    exact Nat.zero_le _
  · rw [ratio_eq hp hw idle, ratio_eq hp' hw' (busy idle)]
    exact Binary64.size_ofQuotient_mono (Binary64.size_ofNat_pos idle)
      (Binary64.size_ofNat_pos (busy idle)) cross

theorem under_ratio {part' : Nat} (h : part ≤ part') (hp : part' ≤ maxWord)
    (hw : whole ≤ maxWord) : doubles.Under (ratio part whole) (ratio part' whole) :=
  under_of_cross (Nat.le_trans h hp) hw hp hw id
    (Nat.mul_le_mul_right _ (Binary64.size_ofNat_mono h))

/-- In double precision a share of losses goes up with the losses while all counts are exact. -/
theorem under_lost {logged dropped dropped' : Nat} (h : dropped ≤ dropped')
    (few : logged + dropped' ≤ 2 ^ 53) :
    doubles.Under (ratio dropped (logged + dropped)) (ratio dropped' (logged + dropped')) := by
  have word {n : Nat} (hn : n ≤ logged + dropped') : n ≤ maxWord :=
    Nat.le_trans (Nat.le_trans hn few) (by decide)
  have size {n : Nat} (hn : n ≤ logged + dropped') :=
    Binary64.size_ofNat_of_le (Nat.le_trans hn few)
  have total : logged + dropped ≤ logged + dropped' := Nat.add_le_add_left h logged
  have lost : dropped ≤ logged + dropped' := by omega
  have lost' : dropped' ≤ logged + dropped' := by omega
  refine under_of_cross (word lost) (word total) (word lost') (word (Nat.le_refl _)) (by omega) ?_
  rw [size lost, size total, size lost', size (Nat.le_refl _), Nat.mul_mul_mul_comm,
    Nat.mul_mul_mul_comm dropped']
  exact Nat.mul_le_mul_right _ (lost_cross logged h)

/-- Past that one more loss can lower the share. -/
example : (ratio (2 ^ 53 + 1) (2 ^ 53 + 2 + (2 ^ 53 + 1))).lt
    (ratio (2 ^ 53) (2 ^ 53 + 2 + 2 ^ 53)) = true := by decide +kernel

end Words

section AsRun

variable {s s' : Metrics.Snapshot} {capacity : Nat}

/-- The counters that are divided have sixty-four bits, and so has the room of the queue. -/
structure InWords (s : Metrics.Snapshot) (capacity : Nat) : Prop where
  errors : s.errors ≤ maxWord
  depth : s.queueDepth ≤ maxWord
  capacity : capacity ≤ maxWord

theorem sharesUnder_doubles (worse : Aggravated s s') (fits : s.logged + s.dropped ≤ maxWord)
    (words : InWords s' capacity)
    (few : s'.dropped = s.dropped ∨ s'.logged + s'.dropped ≤ 2 ^ 53) :
    doubles.SharesUnder (Shares.ofSnapshot s capacity) (Shares.ofSnapshot s' capacity) where
  drop := by
    unfold Shares.ofSnapshot
    rw [worse.logged] at few ⊢
    rcases few with same | few
    · rw [same]
      exact Under.refl doubles _
    · exact under_lost worse.dropped few
  error := by
    unfold Shares.ofSnapshot
    rw [worse.logged]
    exact under_ratio worse.errors words.errors (by omega)
  latency := worse.latency
  usage := under_ratio worse.depth words.depth words.capacity

/-- What a report in double precision says of a snapshot, and of worse ones. -/
structure JudgedAsRun (t : Thresholds) (s : Metrics.Snapshot) (capacity : Nat) (time : Instant)
    (r : Report) : Prop where
  range : Binary64.le (.zero false) r.dropRate = true ∧ r.dropRate.le (.ofNat 1) = true
  /-- Up to `2^53` metrics have the same rate. -/
  alike : ∀ m : Metrics, m.logged = s.logged → m.dropped = s.dropped →
    s.logged + s.dropped ≤ 2 ^ 53 → m.dropRate = r.dropRate
  /-- Up to `2^53`, or with no more losses, the grade is no better. -/
  monotone : ∀ s', Aggravated s s' → s'.logged + s'.dropped ≤ maxWord → InWords s' capacity →
    s'.dropped = s.dropped ∨ s'.logged + s'.dropped ≤ 2 ^ 53 →
    ∃ r', Report.check? t s' capacity time = some r' ∧ r.grade.rank ≤ r'.grade.rank

theorem dropRate_eq {m : Metrics} (few : m.logged + m.dropped ≤ 2 ^ 53) :
    m.dropRate = ratio m.dropped (m.logged + m.dropped) := by
  unfold Metrics.dropRate ratio
  dsimp only
  rw [Binary64.add_ofNat few, Binary64.isZero_ofNat]
  exact if_congr decide_eq_true_iff rfl rfl

theorem judged_as_run (fits : s.logged + s.dropped ≤ maxWord) (t : Thresholds) (capacity : Nat)
    (time : Instant) :
    ∃ r, Report.check? t s capacity time = some r ∧ JudgedAsRun t s capacity time r := by
  have lost : s.dropped ≤ s.logged + s.dropped := Nat.le_add_left _ _
  have plain := plain_ratio (Nat.le_trans lost fits) fits
  have told {s : Metrics.Snapshot} (fits : s.logged + s.dropped ≤ maxWord) :
      Report.check? t s capacity time =
        some (.ofRates t s (Shares.ofSnapshot s capacity).toRates time) := by
    rw [check?_eq_doubles, doubles_shares? fits]
    rfl
  refine ⟨_, told fits, ⟨?_, ?_⟩, ?_, fun s' worse fits' words few => ?_⟩
  · refine (Binary64.le_iff_size plain_zero plain).mpr ?_
    rw [size_zero]
    exact Nat.zero_le _
  · exact (Binary64.le_iff_size plain (Binary64.plain_ofNat 1).1).mpr (size_ratio_le_one lost fits)
  · intro m logged dropped few
    rw [dropRate_eq (by rwa [logged, dropped]), logged, dropped]
    rfl
  · refine ⟨_, told fits', ?_⟩
    rw [grade_ofRates, grade_ofRates]
    exact (sharesUnder_doubles worse fits words few).grade_mono t

end AsRun

/-! ## 6. Grading -/

/-- **What grading comes to and how it grows.** Where the counters can be added there are shares and
a report. In fractions the drop rate is the share of losses, which metrics have too, and with more
losses, errors, latency or depth the grade is no better, whatever the thresholds. In double
precision the drop rate is between 0 and 1, and the rest holds as long as what was counted is exact,
up to `2^53`; with no more losses the grade is no better at all. -/
theorem grading_total_monotone (t : Thresholds) (s : Metrics.Snapshot) (capacity : Nat)
    (time : Instant) (fits : s.logged + s.dropped ≤ maxWord) :
    (∃ x, exact.shares? s capacity = some x ∧ JudgedExactly t s capacity x) ∧
      ∃ r, Report.check? t s capacity time = some r ∧ JudgedAsRun t s capacity time r :=
  ⟨judged_exactly fits t, judged_as_run fits t capacity time⟩

/-- One loss in four, and then two in five. -/
theorem grading_one_in_four : 3 + 1 ≤ maxWord ∧
    ∃ x x', exact.shares? { logged := 3, dropped := 1 } 0 = some x ∧ x.drop = 1 / 4 ∧
      exact.shares? { logged := 3, dropped := 2 } 0 = some x' ∧
      (exact.grade {} x).rank ≤ (exact.grade {} x').rank := by
  have fits : 3 + 1 ≤ maxWord := by decide
  obtain ⟨⟨x, shares, judged⟩, -⟩ :=
    grading_total_monotone {} { logged := 3, dropped := 1 } 0 ⟨0, 0⟩ fits
  have worse : Aggravated { logged := 3, dropped := 1 } { logged := 3, dropped := 2 } :=
    ⟨rfl, by decide, by decide, by decide, by decide⟩
  obtain ⟨x', shares', graded⟩ := judged.monotone _ worse (by decide)
  refine ⟨fits, x, x', shares, ?_, shares', graded⟩
  rw [judged.drop]
  norm_num

/-- **There is no report where the counters cannot be added**, though metrics have a rate for
them. -/
theorem grading_overflows :
    Report.check? {} { logged := maxWord, dropped := 1 } 0 ⟨0, 0⟩ = none ∧
      exact.dropRate? { logged := maxWord, dropped := 1 } = some (1 / 2 ^ 64) := by
  refine ⟨by decide, ?_⟩
  rw [exact_dropRate?]
  have total : maxWord + 1 = 2 ^ 64 := by decide
  norm_num [total]

end Logworks.Health
