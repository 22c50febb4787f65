import Logworks.Health.Report
import Logworks.Proofs.Number.Counts

/-!
# What a report says of itself

A report grades four quantities and has the worst grade; its message names quantities, and two
flags warn of two of them. The message and the flags compare the quantities once more. All of this
agrees but for latencies that double precision cannot tell from a threshold. This file fixes

* `Issue.tier` -- the grade of one quantity; `worst_tier` -- **the grade of a report is the worst**;
* `mem_issues_iff` -- what is named of the quantities other than the latency;
  `latency_mem_issues_iff` -- and of the latency, which is graded in double precision and named by
  the count;
* `report_agrees` -- **grade, message and warnings of every report**;
* `report_disagrees` -- a report that names nothing.
-/

namespace Logworks.Health

open Logworks.Number Logworks.Number.Binary64 Logworks.Time

/-! ## 1. Grades -/

namespace Grade

theorem rank_injective {a b : Grade} (h : a.rank = b.rank) : a = b := by
  cases a <;> cases b <;> first | rfl | cases h

theorem worse_mem (a b : Grade) : worse a b = a ∨ worse a b = b := by
  unfold worse
  split
  · exact .inr rfl
  · exact .inl rfl

/-- The worst of some grades is none the better for starting at one. -/
theorem foldl_worse (gs : List Grade) (g : Grade) :
    (∀ x ∈ g :: gs, x.rank ≤ (gs.foldl worse g).rank) ∧ gs.foldl worse g ∈ g :: gs := by
  induction gs generalizing g with
  | nil => simp
  | cons a gs ih =>
    obtain ⟨bound, mem⟩ := ih (worse g a)
    have top := bound (worse g a) List.mem_cons_self
    rw [rank_worse] at top
    rw [List.foldl_cons]
    refine ⟨fun x hx => ?_, ?_⟩
    · rcases List.mem_cons.mp hx with rfl | hx
      · exact Nat.le_trans (Nat.le_max_left _ _) top
      · rcases List.mem_cons.mp hx with rfl | hx
        · exact Nat.le_trans (Nat.le_max_right _ _) top
        · exact bound x (List.mem_cons_of_mem _ hx)
    · rcases List.mem_cons.mp mem with here | later
      · rw [here]
        rcases worse_mem g a with e | e <;> rw [e] <;> simp
      · exact List.mem_cons_of_mem _ (List.mem_cons_of_mem _ later)

end Grade

namespace Issue

/-- The quantities, in the order they are named. -/
def all : List Issue := [.drop, .error, .latency, .usage]

theorem mem_all (i : Issue) : i ∈ all := by
  cases i <;> decide

/-- The grade of one quantity. -/
def tier (t : Thresholds) (r : Rates) : Issue → Grade
  | drop => Health.tier r.drop t.dropHealthy t.dropDegraded
  | error => Health.tier r.error t.errorHealthy t.errorDegraded
  | latency => Health.tier (.ofNat r.latency) (.ofNat t.latencyHealthy) (.ofNat t.latencyDegraded)
  | usage => Health.tier r.usage t.usageHealthy t.usageDegraded

end Issue

/-- **The grade of a report is the worst of the four.** -/
theorem worst_tier (t : Thresholds) (r : Rates) :
    (∀ i : Issue, (i.tier t r).rank ≤ (t.grade r).rank) ∧ ∃ i : Issue, i.tier t r = t.grade r := by
  have tiers : t.tiers r = Issue.all.map (Issue.tier t r) := rfl
  obtain ⟨bound, mem⟩ := Grade.foldl_worse (t.tiers r) .healthy
  change ∀ x ∈ _, Grade.rank x ≤ (t.grade r).rank at bound
  change t.grade r ∈ _ at mem
  have below (i : Issue) : (i.tier t r).rank ≤ (t.grade r).rank :=
    bound _ (List.mem_cons_of_mem _ (tiers ▸ List.mem_map_of_mem (Issue.mem_all i)))
  refine ⟨below, ?_⟩
  rcases List.mem_cons.mp mem with fine | mem
  · -- all four are healthy then
    have none := below .drop
    rw [fine] at none ⊢
    exact ⟨.drop, Grade.rank_injective (Nat.le_zero.mp none)⟩
  · rw [tiers] at mem
    obtain ⟨i, -, hi⟩ := List.mem_map.mp mem
    exact ⟨i, hi⟩

/-! ## 2. What is named -/

/-- A value is at fault for a grade: at or above the second threshold, or above the first. -/
def isOver (x first second : Binary64) : Grade → Bool
  | .healthy => false
  | .degraded => first.lt x
  | .unhealthy => second.le x

/-- Among values that are graded no worse, those of a grade are at fault for it. -/
theorem isOver_iff_tier {x first second : Binary64} {g : Grade} (hg : g ≠ .healthy)
    (bound : (tier x first second).rank ≤ g.rank) :
    isOver x first second g = true ↔ tier x first second = g := by
  unfold tier at bound ⊢
  cases g with
  | healthy => exact absurd rfl hg
  | unhealthy =>
    rw [isOver]
    split
    · simp [*]
    · split <;> simp [*]
  | degraded =>
    rw [isOver]
    split at bound
    · exact absurd bound (by decide)
    · rw [if_neg ‹_›]
      split <;> simp [*]

/-- The message names the quantity for a grade. The latency is compared as a count. -/
def Issue.isNamed (t : Thresholds) (r : Rates) (g : Grade) : Issue → Bool
  | drop => isOver r.drop t.dropHealthy t.dropDegraded g
  | error => isOver r.error t.errorHealthy t.errorDegraded g
  | usage => isOver r.usage t.usageHealthy t.usageDegraded g
  | latency =>
    match g with
    | .healthy => false
    | .degraded => t.latencyHealthy < r.latency
    | .unhealthy => t.latencyDegraded ≤ r.latency

theorem mem_issues_iff_isNamed {t : Thresholds} {r : Rates} {g : Grade} {i : Issue} :
    i ∈ issues t r g ↔ i.isNamed t r g = true := by
  cases g <;> cases i <;> simp [issues, Issue.isNamed, isOver]

/-- The quantities are named in their order, and none twice. -/
theorem issues_sublist (t : Thresholds) (r : Rates) (g : Grade) :
    (issues t r g).Sublist Issue.all := by
  have one (c : Prop) [Decidable c] (i : Issue) : (if c then [i] else []).Sublist [i] := by
    split
    · exact List.Sublist.refl _
    · exact List.nil_sublist _
  cases g with
  | healthy => exact List.nil_sublist _
  | degraded | unhealthy => exact (((one _ _).append (one _ _)).append (one _ _)).append (one _ _)

variable {t : Thresholds} {r : Rates}

/-- **A quantity other than the latency is named if its grade is that of the report.** -/
theorem mem_issues_iff {i : Issue} (hi : i ≠ .latency) (bad : t.grade r ≠ .healthy) :
    i ∈ issues t r (t.grade r) ↔ i.tier t r = t.grade r := by
  have bound := (worst_tier t r).1 i
  rw [mem_issues_iff_isNamed]
  cases i with
  | drop | error | usage => exact isOver_iff_tier bad bound
  | latency => exact absurd rfl hi

/-- The latency can be told from both thresholds in double precision. -/
structure Sharp (t : Thresholds) (latency : Nat) : Prop where
  second : ¬ Blurred latency t.latencyDegraded
  first : ¬ Blurred t.latencyHealthy latency

theorem latency_unhealthy_iff : Issue.latency.tier t r = .unhealthy ↔
    t.latencyDegraded ≤ r.latency ∨ Blurred r.latency t.latencyDegraded := by
  rw [← le_ofNat_iff, Issue.tier, tier]
  split
  · simp [*]
  · split <;> simp [*]

/-- The latency is at its second threshold if it is graded so, and not by a blur. -/
theorem second_le_latency_iff : t.latencyDegraded ≤ r.latency ↔
    Issue.latency.tier t r = .unhealthy ∧ ¬ Blurred r.latency t.latencyDegraded := by
  rw [latency_unhealthy_iff]
  constructor
  · exact fun h => ⟨.inl h, fun blurred => absurd blurred.1 (Nat.not_lt.mpr h)⟩
  · rintro ⟨h | blurred, sharp⟩
    · exact h
    · exact absurd blurred sharp

/-- It is above its first threshold if it is graded so, or by a blur is not. -/
theorem first_lt_latency_iff (calm : t.grade r = .degraded) : t.latencyHealthy < r.latency ↔
    Issue.latency.tier t r = .degraded ∨ Blurred t.latencyHealthy r.latency := by
  have bound := (worst_tier t r).1 .latency
  rw [calm] at bound
  rw [Issue.tier, ← isOver_iff_tier (by decide) bound, isOver, lt_ofNat_iff]
  constructor
  · intro h
    by_cases blurred : Blurred t.latencyHealthy r.latency
    · exact .inr blurred
    · exact .inl ⟨h, blurred⟩
  · rintro (⟨h, -⟩ | blurred)
    · exact h
    · exact blurred.1

/-- **The latency is named by its count**: in a report of the worst grade it goes unnamed where
only double precision takes it for the threshold, and in one of the middle grade it is named where
only double precision takes it for the threshold. -/
theorem latency_mem_issues_iff : .latency ∈ issues t r (t.grade r) ↔
    match t.grade r with
    | .healthy => False
    | .degraded => Issue.latency.tier t r = .degraded ∨ Blurred t.latencyHealthy r.latency
    | .unhealthy => Issue.latency.tier t r = .unhealthy ∧ ¬ Blurred r.latency t.latencyDegraded := by
  rw [mem_issues_iff_isNamed]
  cases hg : t.grade r with
  | healthy => exact iff_of_false Bool.false_ne_true id
  | degraded => exact decide_eq_true_iff.trans (first_lt_latency_iff hg)
  | unhealthy => exact decide_eq_true_iff.trans second_le_latency_iff

/-- Where double precision can tell it, a quantity is named if its grade is that of the report. -/
theorem mem_issues_of_sharp (sharp : Sharp t r.latency) (bad : t.grade r ≠ .healthy) (i : Issue) :
    i ∈ issues t r (t.grade r) ↔ i.tier t r = t.grade r := by
  by_cases hi : i = .latency
  · subst hi
    rw [latency_mem_issues_iff]
    cases hg : t.grade r with
    | healthy => exact absurd hg bad
    | degraded => exact or_iff_left sharp.first
    | unhealthy => exact and_iff_left sharp.second
  · exact mem_issues_iff hi bad

/-! ## 3. Reports -/

/-- What the message says before it names the quantities. -/
def heading : Grade → String
  | .healthy => "All systems operational"
  | .degraded => "Performance degraded: "
  | .unhealthy => "Critical issues detected: "

theorem message_eq {g : Grade} (bad : g ≠ .healthy) :
    message t r g = heading g ++ ", ".intercalate ((issues t r g).map (Issue.text r)) := by
  cases g with
  | healthy => exact absurd rfl bad
  | degraded | unhealthy => rfl

theorem message_eq_operational_iff (g : Grade) :
    message t r g = "All systems operational" ↔ g = .healthy := by
  refine ⟨fun e => ?_, fun e => e ▸ rfl⟩
  cases g with
  | healthy => rfl
  | degraded | unhealthy =>
    rw [message_eq (by decide)] at e
    have first := congrArg (fun s => s.toList.head?) e
    simp only [String.toList_append] at first
    exact absurd first (by simp [heading])

/-- What a report says of the quantities it is about. -/
structure Report.Says (t : Thresholds) (r : Rates) (x : Report) : Prop where
  worst : ∀ i : Issue, (i.tier t r).rank ≤ x.grade.rank
  attained : ∃ i : Issue, i.tier t r = x.grade
  operational : x.message = "All systems operational" ↔ x.grade = .healthy
  named : x.grade ≠ .healthy →
    x.message = heading x.grade ++ ", ".intercalate ((issues t r x.grade).map (Issue.text r))
  order : (issues t r x.grade).Sublist Issue.all
  others : x.grade ≠ .healthy → ∀ i ≠ Issue.latency, i ∈ issues t r x.grade ↔ i.tier t r = x.grade
  latency : .latency ∈ issues t r x.grade ↔
    match x.grade with
    | .healthy => False
    | .degraded => Issue.latency.tier t r = .degraded ∨ Blurred t.latencyHealthy r.latency
    | .unhealthy => Issue.latency.tier t r = .unhealthy ∧ ¬ Blurred r.latency t.latencyDegraded
  queueFull : x.queueFullWarning = true ↔ Issue.usage.tier t r = .unhealthy
  highLatency : x.highLatencyWarning = true ↔
    Issue.latency.tier t r = .unhealthy ∧ ¬ Blurred r.latency t.latencyDegraded

/-- It says of every quantity what its grade is. -/
structure Report.SaysAll (t : Thresholds) (r : Rates) (x : Report) : Prop where
  named : x.grade ≠ .healthy → ∀ i, i ∈ issues t r x.grade ↔ i.tier t r = x.grade
  nonempty : x.grade ≠ .healthy → issues t r x.grade ≠ []
  highLatency : x.highLatencyWarning = true ↔ Issue.latency.tier t r = .unhealthy

theorem says_ofRates (t : Thresholds) (s : Metrics.Snapshot) (r : Rates) (time : Instant) :
    (Report.ofRates t s r time).Says t r where
  worst := (worst_tier t r).1
  attained := (worst_tier t r).2
  operational := message_eq_operational_iff _
  named := message_eq
  order := issues_sublist t r _
  others bad _ hi := mem_issues_iff hi bad
  latency := latency_mem_issues_iff
  queueFull := by
    rw [Issue.tier, tier]
    split
    · exact iff_of_true ‹_› rfl
    · refine iff_of_false ‹_› ?_
      split <;> simp
  highLatency := decide_eq_true_iff.trans second_le_latency_iff

theorem saysAll_ofRates (s : Metrics.Snapshot) (time : Instant) (sharp : Sharp t r.latency) :
    (Report.ofRates t s r time).SaysAll t r where
  named bad := mem_issues_of_sharp sharp bad
  nonempty bad none := by
    obtain ⟨i, hi⟩ := (worst_tier t r).2
    have listed := (mem_issues_of_sharp sharp bad i).mpr hi
    rw [show issues t r (t.grade r) = [] from none] at listed
    exact absurd listed List.not_mem_nil
  highLatency :=
    (decide_eq_true_iff.trans second_le_latency_iff).trans (and_iff_left sharp.second)

/-- Latencies up to `2^53` microseconds can be told from both thresholds. -/
theorem sharp_of_le {t : Thresholds} {latency : Nat} (h : latency ≤ 2 ^ 53)
    (second : t.latencyDegraded ≤ 2 ^ 53) : Sharp t latency :=
  ⟨not_blurred second, not_blurred h⟩

/-- **Grade, message and warnings of every report.** There is one unless the counters cannot be
added. It has the worst of the four grades, and the calm message if that is the best one. Else the
message names what has the grade of the report, and the warnings go by the grades of the queue and
the latency -- up to latencies that double precision takes for a threshold they are not at, of
which there are none up to `2^53`. -/
theorem report_agrees (t : Thresholds) (s : Metrics.Snapshot) (capacity : Nat) (time : Instant) :
    (match Report.check? t s capacity time with
    | none => maxWord < s.logged + s.dropped
    | some x => s.logged + s.dropped ≤ maxWord ∧ ∃ r, Rates.ofSnapshot? s capacity = some r ∧
        r.latency = s.maxLatency ∧ x.Says t r ∧ (Sharp t s.maxLatency → x.SaysAll t r)) ∧
    (s.maxLatency ≤ 2 ^ 53 → t.latencyDegraded ≤ 2 ^ 53 → Sharp t s.maxLatency) := by
  refine ⟨?_, sharp_of_le⟩
  unfold Report.check?
  rcases Nat.lt_or_ge maxWord (s.logged + s.dropped) with many | fits
  · have none : Rates.ofSnapshot? s capacity = none := if_pos many
    rw [none]
    exact many
  · have some : Rates.ofSnapshot? s capacity = some ⟨ratio s.dropped (s.logged + s.dropped),
        ratio s.errors s.logged, s.maxLatency, ratio s.queueDepth capacity⟩ :=
      if_neg (Nat.not_lt.mpr fits)
    rw [some]
    refine ⟨fits, _, rfl, rfl, says_ofRates t s _ time, fun sharp => ?_⟩
    exact saysAll_ofRates s time sharp

/-- A latency past its second threshold is warned of and named. -/
theorem report_agrees_slow : Sharp {} 60000 ∧ ∃ x,
    Report.check? {} { maxLatency := 60000 } 0 ⟨0, 0⟩ = some x ∧
      x.message = "Critical issues detected: latency 60000us" ∧ x.highLatencyWarning = true := by
  have sharp := (report_agrees {} { maxLatency := 60000 } 0 ⟨0, 0⟩).2 (by decide) (by decide)
  obtain ⟨-, r, hr, latency, told, all⟩ := (report_agrees {} { maxLatency := 60000 } 0 ⟨0, 0⟩).1
  refine ⟨sharp, _, rfl, ?_, ?_⟩
  · cases hr
    rw [told.named (by decide)]
    decide +kernel
  · exact (all sharp).highLatency.mpr (by cases hr; decide)

/-- **A report need not name what is at fault**: the latency is graded as if it were at its
threshold, and neither named nor warned of. -/
theorem report_disagrees :
    ¬ ∀ (t : Thresholds) (s : Metrics.Snapshot) (capacity : Nat) (time : Instant) (r : Rates),
      Rates.ofSnapshot? s capacity = some r →
        ((Report.ofRates t s r time).highLatencyWarning = true ↔
          Issue.latency.tier t r = .unhealthy) ∧
        (t.grade r ≠ .healthy → issues t r (t.grade r) ≠ []) := by
  intro h
  have both := h { latencyDegraded := 2 ^ 53 + 1 } { maxLatency := 2 ^ 53 } 0 ⟨0, 0⟩ _ rfl
  exact absurd both.1 (by decide)

end Logworks.Health
