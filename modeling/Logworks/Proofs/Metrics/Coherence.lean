import Logworks.Proofs.Health.Grading
import Mathlib.Algebra.Order.BigOperators.Group.List
import Mathlib.Data.List.DropRight

/-!
# Metrics over a run

Metrics are ten numbers, changed by one event at a time, and a reset may come at any moment. What
they show can be said from the events alone: from those after the last reset, and the room of the
queue from all of them. This file fixes

* `after` -- the metrics after a run; `recent` -- its events after the last reset, with the
  `latencies` and the `depths` among them;
* `Coherent` -- **what a run says of each of the ten numbers**, `Coherent.step` -- and goes on to
  say after one more event;
* `Coherent.total_le` -- the total is at most the longest latency as often as there were any, and
  wrapping only lowers it;
* `average?` -- the average in any arithmetic; `avgLatency_le` -- and where double precision keeps
  it at most the longest latency;
* `coherent_over_runs` -- **what a snapshot shows after a run**.
-/

namespace Logworks.Metrics

open Logworks.Number Logworks.Time Logworks.Health

/-! ## 1. Runs -/

/-- The metrics after a run of events, from new ones. -/
def after (run : List Step) : Metrics := run.foldl (fun m s => (m.step s).2) {}

/-- The events after the last reset. -/
def recent (run : List Step) : List Step := run.rtakeWhile (· ≠ .reset)

/-- The latency that an event records: whole microseconds, at most the greatest number. -/
def Step.latency? : Step → Option Nat
  | .latency elapsed => some (min elapsed.micros maxWord)
  | _ => none

/-- The depth of the queue that an event records. -/
def Step.depth? : Step → Option Nat
  | .depth n => some n
  | _ => none

/-- The room of the queue that an event sets. -/
def Step.capacity? : Step → Option Nat
  | .capacity n => some n
  | _ => none

/-- The latencies since the last reset. -/
def latencies (run : List Step) : List Nat := (recent run).filterMap Step.latency?

/-- The depths since the last reset. -/
def depths (run : List Step) : List Nat := (recent run).filterMap Step.depth?

/-- The rooms of the queue that were ever set. -/
def capacities (run : List Step) : List Nat := run.filterMap Step.capacity?

/-- The greatest of some numbers, 0 if there are none. -/
def greatest (xs : List Nat) : Nat := xs.max?.getD 0

/-- The last of some numbers, 0 if there are none. -/
def latest (xs : List Nat) : Nat := xs.getLast?.getD 0

theorem after_concat (run : List Step) (s : Step) :
    after (run ++ [s]) = ((after run).step s).2 := by
  rw [after, List.foldl_concat]
  rfl

section Concat

variable {run : List Step} {s : Step}

@[simp] theorem recent_reset (run : List Step) : recent (run ++ [.reset]) = [] :=
  List.rtakeWhile_concat_neg _ _ _ (by simp)

@[simp] theorem recent_concat (h : s ≠ .reset) : recent (run ++ [s]) = recent run ++ [s] :=
  List.rtakeWhile_concat_pos _ _ _ (by simpa using h)

@[simp] theorem latencies_concat (h : s ≠ .reset) :
    latencies (run ++ [s]) = latencies run ++ s.latency?.toList := by
  rw [latencies, recent_concat h, List.filterMap_append]
  cases s <;> rfl

@[simp] theorem depths_concat (h : s ≠ .reset) :
    depths (run ++ [s]) = depths run ++ s.depth?.toList := by
  rw [depths, recent_concat h, List.filterMap_append]
  cases s <;> rfl

@[simp] theorem capacities_concat (run : List Step) (s : Step) :
    capacities (run ++ [s]) = capacities run ++ s.capacity?.toList := by
  rw [capacities, List.filterMap_append]
  cases s <;> rfl

end Concat

@[simp] theorem greatest_concat (xs : List Nat) (x : Nat) :
    greatest (xs ++ [x]) = max (greatest xs) x := by
  cases xs with
  | nil => simp [greatest]
  | cons y ys =>
    rw [List.cons_append, greatest, greatest, List.max?_cons', List.max?_cons', List.foldl_concat]
    rfl

@[simp] theorem latest_concat (xs : List Nat) (x : Nat) : latest (xs ++ [x]) = x := by
  rw [latest, List.getLast?_concat, Option.getD_some]

theorem le_greatest {xs : List Nat} {x : Nat} (h : x ∈ xs) : x ≤ greatest xs :=
  List.le_max?_getD_of_mem h

theorem latest_le_greatest (xs : List Nat) : latest xs ≤ greatest xs := by
  unfold latest
  cases h : xs.getLast? with
  | none => exact Nat.zero_le _
  | some x => exact le_greatest (List.mem_of_getLast? h)

/-! ## 2. What a run says of the metrics -/

/-- What a run says of each number of the metrics. -/
structure Coherent (run : List Step) (m : Metrics) : Prop where
  logged : m.logged = wrapWord ((recent run).count .logged)
  dropped : m.dropped = wrapWord ((recent run).count .dropped)
  filtered : m.filtered = wrapWord ((recent run).count .filtered)
  errors : m.errors = wrapWord ((recent run).count .error)
  total : m.latencyTotal = wrapWord (latencies run).sum
  longest : m.latencyMax = greatest (latencies run)
  samples : m.latencySamples = wrapWord (latencies run).length
  depth : m.queueDepth = latest (depths run)
  deepest : m.maxQueueDepth = greatest (depths run)
  capacity : m.queueCapacity = latest (capacities run)

namespace Coherent

variable {run : List Step} {m : Metrics}

theorem nil : Coherent [] {} := by
  constructor <;> rfl

/-- All but the room of the queue starts again. -/
theorem reset (h : Coherent run m) : Coherent (run ++ [.reset]) m.reset := by
  have latencies : latencies (run ++ [.reset]) = [] := by rw [latencies, recent_reset]; rfl
  have depths : depths (run ++ [.reset]) = [] := by rw [depths, recent_reset]; rfl
  constructor
  case capacity => simp [Metrics.reset, Step.capacity?, h.capacity]
  all_goals
    simp only [recent_reset, latencies, depths]
    rfl

theorem latency (h : Coherent run m) (elapsed : Span) :
    Coherent (run ++ [.latency elapsed]) (m.recordLatency elapsed) := by
  have more : latencies (run ++ [.latency elapsed]) =
      latencies run ++ [min elapsed.micros maxWord] := latencies_concat (by simp)
  constructor
  case total =>
    rw [more, List.sum_append, List.sum_singleton, recordLatency, h.total, wrapWord_wrapWord_add]
  case longest => rw [more, greatest_concat, recordLatency, h.longest]
  case samples =>
    rw [more, List.length_append, recordLatency, h.samples, wrapWord_wrapWord_add,
      List.length_singleton]
  all_goals
    obtain ⟨logged, dropped, filtered, errors, -, -, -, depth, deepest, capacity⟩ := h
    simp [recordLatency, Step.depth?, Step.capacity?, *]

/-- **One more event** changes its own numbers, and adds to its own lists. -/
theorem step (h : Coherent run m) (s : Step) : Coherent (run ++ [s]) (m.step s).2 := by
  cases s with
  | reset => exact h.reset
  | latency elapsed => exact h.latency elapsed
  | logged | dropped | filtered | error | depth n | capacity n =>
    obtain ⟨logged, dropped, filtered, errors, total, longest, samples, depth, deepest,
      capacity⟩ := h
    constructor <;>
      simp [Metrics.step, recordLogged, recordDropped, recordFiltered, recordError,
        recordQueueDepth, setQueueCapacity, Step.latency?, Step.depth?, Step.capacity?, *]

end Coherent

/-- **A run says what its metrics are.** -/
theorem coherent_after (run : List Step) : Coherent run (after run) := by
  induction run using List.reverseRecOn with
  | nil => exact .nil
  | append_singleton run s ih =>
    rw [after_concat]
    exact ih.step s

/-! ## 3. The average -/

theorem sum_le_greatest (xs : List Nat) : xs.sum ≤ xs.length * greatest xs :=
  List.sum_le_card_nsmul xs _ fun _ h => le_greatest h

theorem length_latencies_le (run : List Step) : (latencies run).length ≤ (recent run).length :=
  List.length_filterMap_le _ _

/-- **The total is at most the longest latency as often as there were any**, wrapped or not. -/
theorem Coherent.total_le {run : List Step} {m : Metrics} (h : Coherent run m)
    (few : (latencies run).length < 2 ^ 64) : m.latencyTotal ≤ m.latencySamples * m.latencyMax := by
  rw [h.total, h.samples, h.longest, wrapWord_of_lt few]
  exact Nat.le_trans (wrapWord_le _) (sum_le_greatest _)

/-- The average latency in any arithmetic, 0 if there were none. -/
def average? {α : Type} (m : Metrics) (A : Arithmetic α) : Option α :=
  A.ratio? m.latencyTotal m.latencySamples

/-- In double precision it is the one that is shown. -/
theorem average?_doubles (m : Metrics) : m.average? .doubles = some m.avgLatency :=
  doubles_ratio? _ _

theorem average?_exact (m : Metrics) :
    m.average? .exact = some (m.latencyTotal / m.latencySamples : ℚ) :=
  exact_ratio? _ _

section Average

variable {m : Metrics} (bound : m.latencyTotal ≤ m.latencySamples * m.latencyMax)

include bound

theorem average_le : (m.latencyTotal / m.latencySamples : ℚ) ≤ m.latencyMax := by
  refine div_le_of_le_mul₀ (Nat.cast_nonneg _) (Nat.cast_nonneg _) ?_
  rw [Nat.mul_comm] at bound
  exact_mod_cast bound

/-- Double precision keeps the bound while what it divides is exact. -/
theorem avgLatency_le (total : m.latencyTotal ≤ 2 ^ 53) (samples : m.latencySamples ≤ 2 ^ 53) :
    m.avgLatency.le (.ofNat m.latencyMax) = true := by
  have word {n : Nat} (h : n ≤ 2 ^ 53) : n ≤ maxWord := Nat.le_trans h (by decide)
  have shown : m.avgLatency = ratio m.latencyTotal m.latencySamples := rfl
  rw [shown, Binary64.le_iff_size (plain_ratio (word total) (word samples))
    (Binary64.plain_ofNat _).1]
  by_cases idle : m.latencySamples = 0
  · rw [ratio, if_pos idle, size_zero]
    exact Nat.zero_le _
  · rw [ratio_eq (word total) (word samples) idle]
    refine Binary64.size_ofQuotient_mono (Binary64.size_ofNat_pos idle) Nat.one_pos ?_
    rw [Binary64.size_ofNat_of_le total, Binary64.size_ofNat_of_le samples, Nat.mul_one,
      ← Nat.mul_assoc, Nat.mul_comm m.latencyMax]
    exact Nat.mul_le_mul_right _ bound

end Average

/-- Past that it is rounded, which can be up. -/
example : avgLatency
    { latencyTotal := 2 ^ 53 + 3, latencyMax := 2 ^ 53 + 3, latencySamples := 1 } =
      .ofNat (2 ^ 53 + 4) := by decide +kernel

/-! ## 4. Snapshots -/

/-- What a snapshot shows after a run: counts since the last reset, the longest latency, the latest
depth of the queue and the greatest. -/
structure Shows (run : List Step) (s : Snapshot) : Prop where
  logged : s.logged = (recent run).count .logged
  dropped : s.dropped = (recent run).count .dropped
  filtered : s.filtered = (recent run).count .filtered
  errors : s.errors = (recent run).count .error
  longest : s.maxLatency = greatest (latencies run)
  depth : s.queueDepth = latest (depths run)
  deepest : s.maxQueueDepth = greatest (depths run)
  within : s.queueDepth ≤ s.maxQueueDepth

theorem Coherent.shows {run : List Step} {m : Metrics} (h : Coherent run m)
    (few : (recent run).length < 2 ^ 64) (elapsed : Binary64) : Shows run (m.snapshot elapsed) := by
  have counted (s : Step) : wrapWord ((recent run).count s) = (recent run).count s :=
    wrapWord_of_lt (Nat.lt_of_le_of_lt List.count_le_length few)
  refine ⟨h.logged.trans (counted _), h.dropped.trans (counted _), h.filtered.trans (counted _),
    h.errors.trans (counted _), h.longest, h.depth, h.deepest, ?_⟩
  calc m.queueDepth = latest (depths run) := h.depth
    _ ≤ greatest (depths run) := latest_le_greatest _
    _ = m.maxQueueDepth := h.deepest.symm

/-- **Metrics stay coherent over a run** with fewer events since its last reset than sixty-four bits
count. A snapshot shows what the events say, and the room of the queue is the one that was set last,
before a reset or after. The average latency is the total over the samples: in fractions it is never
more than the longest latency, however often the total has wrapped, and in double precision it is
not while what is divided is exact, up to `2^53`. -/
theorem coherent_over_runs (run : List Step) (few : (recent run).length < 2 ^ 64)
    (elapsed : Binary64) :
    let shown := (after run).snapshot elapsed
    let average : ℚ := wrapWord (latencies run).sum / (latencies run).length
    Shows run shown ∧ (after run).queueCapacity = latest (capacities run) ∧
      (after run).average? .exact = some average ∧ average ≤ shown.maxLatency ∧
      (after run).average? .doubles = some shown.avgLatency ∧
      ((latencies run).sum ≤ 2 ^ 53 → (latencies run).length ≤ 2 ^ 53 →
        shown.avgLatency.le (.ofNat shown.maxLatency) = true) := by
  intro shown average
  have coherent := coherent_after run
  have counted : (latencies run).length < 2 ^ 64 :=
    Nat.lt_of_le_of_lt (length_latencies_le run) few
  have samples : (after run).latencySamples = (latencies run).length :=
    coherent.samples.trans (wrapWord_of_lt counted)
  have quotient : ((after run).latencyTotal / (after run).latencySamples : ℚ) = average := by
    rw [coherent.total, samples]
  have bound := coherent.total_le counted
  refine ⟨coherent.shows few elapsed, coherent.capacity, ?_, ?_, average?_doubles _, ?_⟩
  · rw [average?_exact, quotient]
  · rw [← quotient]
    exact average_le bound
  · intro total number
    have total : (after run).latencyTotal ≤ 2 ^ 53 := by
      rw [coherent.total]
      exact Nat.le_trans (wrapWord_le _) total
    exact avgLatency_le bound total (samples ▸ number)

/-- Two latencies past all numbers after a reset: their total wraps, and so the average is short by
one of them in two. -/
theorem coherent_over_runs_wrapped :
    let long : Span := { seconds := maxWord, nanos := 0 }
    let run : List Step := [.capacity 8, .logged, .depth 5, .reset, .latency long, .logged,
      .latency long, .depth 3, .depth 2]
    let shown := (after run).snapshot (.zero false)
    (recent run).length < 2 ^ 64 ∧ shown.logged = 1 ∧ shown.maxLatency = 2 ^ 64 - 1 ∧
      shown.queueDepth = 2 ∧ shown.maxQueueDepth = 3 ∧ (after run).queueCapacity = 8 ∧
      (after run).average? .exact = some (2 ^ 63 - 1) := by
  intro long run shown
  have few : (recent run).length < 2 ^ 64 := by decide
  obtain ⟨shows, room, average, -⟩ := coherent_over_runs run few (.zero false)
  have latencies : latencies run = [2 ^ 64 - 1, 2 ^ 64 - 1] := by decide
  refine ⟨few, shows.logged.trans (by decide), shows.longest.trans (by decide),
    shows.depth.trans (by decide), shows.deepest.trans (by decide), room.trans (by decide), ?_⟩
  have total : wrapWord [2 ^ 64 - 1, 2 ^ 64 - 1].sum = 2 ^ 64 - 2 := by decide
  rw [average, latencies, total]
  norm_num

end Logworks.Metrics
