import Logworks.Health.Registry
import Logworks.Proofs.Health.Agreement
import Mathlib.Data.List.Induction
import Mathlib.Data.List.Forall2
import Mathlib.Logic.Function.Basic

/-!
# The registry and the loggers that are there

Names are registered and taken back, loggers log and go away, the registry is pruned and given other
thresholds, in any order. What the registry shows hangs on no more than the name's last registration
and on whether its logger is there. This file fixes

* `Act` -- what may happen to the registry and to the loggers in it;
* `Book` -- the names as a function, with the same acts: a map from names to loggers;
* `Act.latest` -- the logger of the last registration of a name, if it was not taken back;
* `Registry.Shows` -- what is read off a registry, by a book: one name, all names, the worst grade,
  the document, and what pruning takes away;
* `shows_live_loggers` -- **after any acts the registry shows what the book says, and the book says
  of a name with a live logger what its last registration said**;
* `fits_of_few` -- the counters can be added while fewer than `2^64` things were counted.

NOT here: the time a logger has been running, which its report takes for one second, and calls of
several threads at once: the registry takes them one after the other.
-/

namespace Logworks.Health

open Logworks.Json Logworks.Time

variable {α β : Type}

/-! ## 1. Entries -/

/-- Names in ascending order, each once. -/
def Ascending (names : List String) : Prop := names.Pairwise (· < ·)

theorem Ascending.nodup {names : List String} (h : Ascending names) : names.Nodup :=
  h.imp fun {a b} (lt : a < b) (e : a = b) => String.lt_irrefl b (e ▸ lt)

theorem lookup_cons_eq_ite (name : String) (e : String × α) (es : List (String × α)) :
    (e :: es).lookup name = if name = e.1 then some e.2 else es.lookup name := by
  obtain ⟨first, a⟩ := e
  rw [List.lookup_cons]
  by_cases same : name = first
  · rw [if_pos same, beq_iff_eq.mpr same]
  · rw [if_neg same, beq_eq_false_iff_ne.mpr same]

theorem Ascending.mem_iff_lookup {es : List (String × α)} (h : Ascending (es.map Prod.fst))
    (name : String) (a : α) : (name, a) ∈ es ↔ es.lookup name = some a := by
  induction es with
  | nil => exact iff_of_false List.not_mem_nil nofun
  | cons e es ih =>
    obtain ⟨first, b⟩ := e
    obtain ⟨above, rest⟩ := List.pairwise_cons.mp h
    rw [List.mem_cons, lookup_cons_eq_ite]
    by_cases same : name = first
    · subst same
      have absent : (name, a) ∉ es := fun mem =>
        String.lt_irrefl name (above name (List.mem_map_of_mem mem))
      simp [absent, eq_comm]
    · simp [same, ih rest]

namespace Registry

theorem lookup_insertEntry (name : String) (a : α) (es : List (String × α)) (other : String) :
    (insertEntry name a es).lookup other = if other = name then some a else es.lookup other := by
  induction es with
  | nil => exact lookup_cons_eq_ite other (name, a) []
  | cons e es ih =>
    rw [insertEntry]
    split
    · have here : name = e.1 := by simpa using ‹(name == e.1) = true›
      rw [lookup_cons_eq_ite, lookup_cons_eq_ite, here]
      split <;> rfl
    · have differs : name ≠ e.1 := by simpa using ‹¬ (name == e.1) = true›
      split
      · exact lookup_cons_eq_ite other (name, a) (e :: es)
      · rw [lookup_cons_eq_ite, lookup_cons_eq_ite, ih]
        by_cases here : other = e.1
        · rw [if_pos here, if_pos here, if_neg fun same => differs (same.symm.trans here)]
        · rw [if_neg here, if_neg here]

theorem mem_names_insertEntry {name : String} {a : α} {es : List (String × α)} {x : String}
    (h : x ∈ (insertEntry name a es).map Prod.fst) : x = name ∨ x ∈ es.map Prod.fst := by
  induction es with
  | nil => exact .inl (by simpa [insertEntry] using h)
  | cons e es ih =>
    rw [insertEntry] at h
    split at h
    · rcases List.mem_cons.mp h with here | later
      · exact .inl here
      · exact .inr (List.mem_cons_of_mem _ later)
    · split at h
      · exact List.mem_cons.mp h
      · rcases List.mem_cons.mp h with here | later
        · exact .inr (here ▸ List.mem_cons_self)
        · exact (ih later).imp_right fun h => List.mem_cons_of_mem _ h

theorem ascending_insertEntry {es : List (String × α)} (h : Ascending (es.map Prod.fst))
    (name : String) (a : α) : Ascending ((insertEntry name a es).map Prod.fst) := by
  induction es with
  | nil => exact List.pairwise_singleton _ _
  | cons e es ih =>
    obtain ⟨above, rest⟩ := List.pairwise_cons.mp h
    rw [insertEntry]
    split
    · have here : name = e.1 := by simpa using ‹(name == e.1) = true›
      exact List.pairwise_cons.mpr ⟨here ▸ above, rest⟩
    · have differs : name ≠ e.1 := by simpa using ‹¬ (name == e.1) = true›
      split
      · rename_i below
        refine List.pairwise_cons.mpr ⟨fun x hx => ?_, h⟩
        rcases List.mem_cons.mp hx with rfl | hx
        · exact below
        · exact String.lt_trans below (above x hx)
      · rename_i not_below
        refine List.pairwise_cons.mpr ⟨fun x hx => ?_, ih rest⟩
        rcases mem_names_insertEntry hx with rfl | hx
        · exact Std.lt_of_le_of_ne (String.not_lt.mp not_below) differs.symm
        · exact above x hx

/-- The members of a report have ascending names, and so have those with the name of its logger
among them. -/
theorem ascending_namedMembers (e : String × Report) :
    Ascending (e.2.members.map Prod.fst) ∧ Ascending ((namedMembers e).map Prod.fst) := by
  have hmembers : Ascending (e.2.members.map Prod.fst) := by
    show ["indicators", "message", "metrics", "status", "timestamp"].Pairwise (· < ·)
    decide
  exact ⟨hmembers, ascending_insertEntry hmembers "name" _⟩

theorem lookup_namedMembers (e : String × Report) (key : String) :
    (namedMembers e).lookup key =
      if key = "name" then some (.text e.1) else e.2.members.lookup key :=
  lookup_insertEntry "name" _ _ key

theorem ascending_filter {es : List (String × α)} (h : Ascending (es.map Prod.fst))
    (keep : String × α → Bool) : Ascending ((es.filter keep).map Prod.fst) :=
  h.sublist (List.filter_sublist.map Prod.fst)

theorem lookup_filter {es : List (String × Nat)} (h : Ascending (es.map Prod.fst))
    (keep : String × Nat → Bool) (name : String) :
    (es.filter keep).lookup name = (es.lookup name).filter fun n => keep (name, n) := by
  refine Option.ext fun n => ?_
  rw [← (ascending_filter h keep).mem_iff_lookup, List.mem_filter, h.mem_iff_lookup,
    Option.filter_eq_some_iff]

theorem lookup_unregister {r : Registry} (h : Ascending (r.entries.map Prod.fst))
    (name other : String) :
    (r.unregister name).entries.lookup other =
      if other = name then none else r.entries.lookup other := by
  rw [unregister, lookup_filter h]
  by_cases same : other = name
  · simp [same]
  · rw [if_neg same]
    refine Option.ext fun n => ?_
    rw [Option.filter_eq_some_iff]
    exact and_iff_left (bne_iff_ne.mpr same)

end Registry

/-! ## 2. Acts -/

/-- The loggers that are there, by number, with their metrics. -/
abbrev Loggers := Nat → Option Metrics

/-- What may happen to a registry and to the loggers. -/
inductive Act where
  | register (name : String) (logger : Nat)
  | unregister (name : String)
  | prune
  | setThresholds (t : Thresholds)
  /-- A logger goes away, for good. -/
  | drop (logger : Nat)
  /-- A logger counts something. -/
  | note (logger : Nat) (s : Metrics.Step)

namespace Act

/-- What an act does to the loggers. -/
def affect (loggers : Loggers) : Act → Loggers
  | drop n => Function.update loggers n none
  | note n s => Function.update loggers n ((loggers n).map fun m => (m.step s).2)
  | register .. | unregister _ | prune | setThresholds _ => loggers

/-- What an act does to the registry. -/
def perform (loggers : Loggers) (r : Registry) : Act → Registry
  | register name n => r.register name n
  | unregister name => r.unregister name
  | prune => (r.prune loggers).2
  | setThresholds t => r.setThresholds t
  | drop _ | note .. => r

/-- What an act says about a name: that it stands for a logger from now on, or for none. -/
def told (name : String) : Act → Option (Option Nat)
  | register other n => if name = other then some (some n) else none
  | unregister other => if name = other then some none else none
  | prune | setThresholds _ | drop _ | note .. => none

/-- The logger of the last registration of a name, unless it was taken back since. -/
def latest (name : String) (acts : List Act) : Option Nat :=
  (acts.filterMap (told name)).getLast?.join

def thresholds? : Act → Option Thresholds
  | setThresholds t => some t
  | register .. | unregister _ | prune | drop _ | note .. => none

/-- The thresholds that were set last. -/
def lastThresholds (t : Thresholds) (acts : List Act) : Thresholds :=
  (acts.filterMap thresholds?).getLast?.getD t

/-- What an act does to names that stand for loggers. -/
def rename (loggers : Loggers) (names : String → Option Nat) (a : Act) (name : String) :
    Option Nat :=
  match a with
  | register other n => if name = other then some n else names name
  | unregister other => if name = other then none else names name
  | prune => (names name).filter fun n => (loggers n).isSome
  | setThresholds _ | drop _ | note .. => names name

def isNote : Act → Bool
  | note .. => true
  | register .. | unregister _ | prune | setThresholds _ | drop _ => false

end Act

/-- A registry and the loggers. -/
structure World where
  registry : Registry := {}
  loggers : Loggers

namespace World

def step (w : World) (a : Act) : World :=
  { registry := a.perform w.loggers w.registry, loggers := a.affect w.loggers }

/-- One act after the other. -/
def run (w : World) (acts : List Act) : World := acts.foldl step w

theorem run_append_singleton (w : World) (acts : List Act) (a : Act) :
    w.run (acts ++ [a]) = (w.run acts).step a := by
  rw [run, List.foldl_append]
  rfl

end World

/-! ## 3. Books -/

/-- Names that stand for loggers, the thresholds in force, and the loggers that are there. -/
structure Book where
  thresholds : Thresholds := {}
  names : String → Option Nat := fun _ => none
  loggers : Loggers

namespace Book

def step (b : Book) (a : Act) : Book where
  thresholds := a.thresholds?.getD b.thresholds
  names := a.rename b.loggers b.names
  loggers := a.affect b.loggers

def run (b : Book) (acts : List Act) : Book := acts.foldl step b

theorem run_append_singleton (b : Book) (acts : List Act) (a : Act) :
    b.run (acts ++ [a]) = (b.run acts).step a := by
  rw [run, List.foldl_append]
  rfl

/-- A name stands for a logger that is there. -/
def live (b : Book) (name : String) : Option Metrics := (b.names name).bind b.loggers

/-- The report on the metrics of a logger; there is none where the counters cannot be added. -/
def reportOn (b : Book) (time : Instant) (m : Metrics) : Option Report :=
  Report.check? b.thresholds (m.snapshot (.ofNat 1)) m.queueCapacity time

end Book

/-- The registry holds what the book says. -/
structure Holds (b : Book) (w : World) : Prop where
  loggers : w.loggers = b.loggers
  thresholds : w.registry.thresholds = b.thresholds
  ascending : Ascending (w.registry.entries.map Prod.fst)
  lookup : ∀ name, w.registry.entries.lookup name = b.names name

/-- **One act keeps registry and book together.** -/
theorem Holds.step {b : Book} {w : World} (h : Holds b w) (a : Act) :
    Holds (b.step a) (w.step a) where
  loggers := congrArg (Act.affect · a) h.loggers
  thresholds := by
    cases a with
    | setThresholds t => rfl
    | register _ _ | unregister _ | prune | drop _ | note _ _ => exact h.thresholds
  ascending := by
    cases a with
    | register name n => exact Registry.ascending_insertEntry h.ascending name n
    | unregister name => exact Registry.ascending_filter h.ascending _
    | prune => exact Registry.ascending_filter h.ascending _
    | setThresholds _ | drop _ | note _ _ => exact h.ascending
  lookup name := by
    rw [Book.step, ← funext h.lookup, ← h.loggers]
    cases a with
    | register other n => exact Registry.lookup_insertEntry other n _ name
    | unregister other => exact Registry.lookup_unregister h.ascending other name
    | prune => exact Registry.lookup_filter h.ascending _ name
    | setThresholds _ | drop _ | note _ _ => rfl

theorem holds_run (t : Thresholds) (loggers : Loggers) (acts : List Act) :
    Holds (Book.run { thresholds := t, loggers := loggers } acts)
      (World.run { registry := { thresholds := t }, loggers := loggers } acts) := by
  induction acts using List.reverseRecOn with
  | nil => exact ⟨rfl, rfl, List.Pairwise.nil, fun _ => rfl⟩
  | append_singleton acts a ih =>
    rw [Book.run_append_singleton, World.run_append_singleton]
    exact ih.step a

/-! ## 4. Last words -/

namespace Act

theorem latest_append_singleton (name : String) (acts : List Act) (a : Act) :
    latest name (acts ++ [a]) = (a.told name).getD (latest name acts) := by
  rw [latest, List.filterMap_append, List.getLast?_append]
  cases h : a.told name with
  | none => simp [h, latest]
  | some _ => simp [h]

theorem lastThresholds_append_singleton (t : Thresholds) (acts : List Act) (a : Act) :
    lastThresholds t (acts ++ [a]) = a.thresholds?.getD (lastThresholds t acts) := by
  rw [lastThresholds, List.filterMap_append, List.getLast?_append]
  cases h : a.thresholds? with
  | none => simp [h, lastThresholds]
  | some _ => simp [h]

/-- A logger that is gone does not come back. -/
theorem affect_eq_none {loggers : Loggers} {n : Nat} (h : loggers n = none) (a : Act) :
    a.affect loggers n = none := by
  cases a with
  | drop m =>
    rw [affect, Function.update_apply, h, ite_self]
  | note m s =>
    rw [affect, Function.update_apply]
    split
    · rename_i here
      rw [← here, h]
      rfl
    · exact h
  | register _ _ | unregister _ | prune | setThresholds _ => exact h

/-- What is counted once makes the two counters no greater than one more. -/
theorem counted_step (m : Metrics) (s : Metrics.Step) :
    (m.step s).2.logged + (m.step s).2.dropped ≤ m.logged + m.dropped + 1 := by
  have wraps (i : Nat) : wrapWord i ≤ i := Nat.mod_le i _
  cases s with
  | logged =>
    have := wraps (m.logged + 1)
    simp only [Metrics.step, Metrics.recordLogged]
    omega
  | dropped =>
    have := wraps (m.dropped + 1)
    simp only [Metrics.step, Metrics.recordDropped]
    omega
  | latency _ =>
    -- with its fields at hand: the two metrics are not to be compared as wholes
    obtain ⟨⟩ := m
    exact Nat.le_succ _
  | filtered | error | depth _ | capacity _ => exact Nat.le_succ _
  | reset => exact Nat.zero_le _

theorem affect_bound {loggers : Loggers} {a : Act} {spare bound : Nat}
    (h : ∀ n m, loggers n = some m →
      m.logged + m.dropped + (spare + if a.isNote then 1 else 0) ≤ bound) :
    ∀ n m, a.affect loggers n = some m → m.logged + m.dropped + spare ≤ bound := by
  have kept (n : Nat) (m : Metrics) (hm : loggers n = some m) :
      m.logged + m.dropped + spare ≤ bound := Nat.le_trans (by omega) (h n m hm)
  intro n m hm
  cases a with
  | drop k =>
    rw [affect, Function.update_apply] at hm
    split at hm
    · cases hm
    · exact kept n m hm
  | note k s =>
    rw [affect, Function.update_apply] at hm
    split at hm
    · obtain ⟨m₀, hm₀, rfl⟩ := Option.map_eq_some_iff.mp hm
      have before : m₀.logged + m₀.dropped + (spare + 1) ≤ bound := h k m₀ hm₀
      have counted := counted_step m₀ s
      omega
    · exact kept n m hm
  | register _ _ | unregister _ | prune | setThresholds _ => exact kept n m hm

end Act

namespace Book

variable (t : Thresholds) (loggers : Loggers) (acts : List Act)

theorem thresholds_run :
    (run { thresholds := t, loggers := loggers } acts).thresholds = Act.lastThresholds t acts := by
  induction acts using List.reverseRecOn with
  | nil => rfl
  | append_singleton acts a ih =>
    rw [run_append_singleton, Act.lastThresholds_append_singleton, ← ih]
    rfl

/-- **A name stands for what its last registration said**, or for nothing since the registry was
pruned of it, its logger being gone. -/
theorem names_run (name : String) :
    let b := run { thresholds := t, loggers := loggers } acts
    b.names name = Act.latest name acts ∨
      b.names name = none ∧ ∃ n, Act.latest name acts = some n ∧ b.loggers n = none := by
  induction acts using List.reverseRecOn with
  | nil => exact .inl rfl
  | append_singleton acts a ih =>
    rw [run_append_singleton, Act.latest_append_singleton]
    dsimp only at ih ⊢
    generalize run { thresholds := t, loggers := loggers } acts = b at ih ⊢
    have still : (∃ n, Act.latest name acts = some n ∧ b.loggers n = none) →
        ∃ n, Act.latest name acts = some n ∧ (b.step a).loggers n = none :=
      fun ⟨n, last, gone⟩ => ⟨n, last, Act.affect_eq_none gone a⟩
    have carried := ih.imp_right (And.imp_right still)
    cases a with
    | register other m | unregister other =>
      simp only [step, Act.rename, Act.told]
      split
      · exact .inl rfl
      · exact carried
    | prune =>
      simp only [step, Act.rename, Act.told]
      rcases ih with e | ⟨unnamed, gone⟩
      · rw [e]
        cases last : Act.latest name acts with
        | none => exact .inl rfl
        | some n =>
          cases alive : b.loggers n with
          | none => exact .inr ⟨by simp [alive], n, rfl, alive⟩
          | some m => exact .inl (by simp [alive])
      · exact .inr ⟨by rw [unnamed]; rfl, gone⟩
    | setThresholds _ | drop _ | note _ _ => exact carried

/-- A name with a live logger stands for what its last registration said. -/
theorem names_run_iff_latest (name : String) (n : Nat)
    (h : ((run { thresholds := t, loggers := loggers } acts).loggers n).isSome) :
    (run { thresholds := t, loggers := loggers } acts).names name = some n ↔
      Act.latest name acts = some n := by
  rcases names_run t loggers acts name with e | ⟨unnamed, m, last, gone⟩
  · rw [e]
  · refine iff_of_false (by rw [unnamed]; exact nofun) fun e => ?_
    obtain rfl := Option.some.inj (last.symm.trans e)
    rw [gone] at h
    cases h

end Book

/-! ## 5. What a registry shows -/

/-- What a list of named values comes to, each on its own. -/
theorem mapM_named_eq_some {g : α → Option β} {xs : List (String × α)} {ys : List (String × β)}
    (h : xs.mapM (fun e => (g e.2).map fun b => (e.1, b)) = some ys) :
    ys.map Prod.fst = xs.map Prod.fst ∧
      ∀ name b, (name, b) ∈ ys ↔ ∃ a, (name, a) ∈ xs ∧ g a = some b := by
  induction xs generalizing ys with
  | nil =>
    cases h
    exact ⟨rfl, fun name b => by simp⟩
  | cons x xs ih =>
    rw [List.mapM_cons] at h
    obtain ⟨y, hy, h⟩ := Option.bind_eq_some_iff.mp h
    obtain ⟨zs, hzs, h⟩ := Option.bind_eq_some_iff.mp h
    obtain ⟨b, hb, rfl⟩ := Option.map_eq_some_iff.mp hy
    cases h
    obtain ⟨names, mem⟩ := ih hzs
    refine ⟨by rw [List.map_cons, List.map_cons, names], fun name b' => ?_⟩
    rw [List.mem_cons, mem]
    constructor
    · rintro (e | ⟨a, ha, hg⟩)
      · obtain ⟨rfl, rfl⟩ := Prod.mk.inj e
        exact ⟨x.2, List.mem_cons_self, hb⟩
      · exact ⟨a, List.mem_cons_of_mem _ ha, hg⟩
    · rintro ⟨a, ha, hg⟩
      rcases List.mem_cons.mp ha with rfl | ha
      · exact .inl (Prod.ext rfl (Option.some.inj (hg.symm.trans hb)))
      · exact .inr ⟨a, ha, hg⟩

theorem mapM_named_eq_none_iff {g : α → Option β} {xs : List (String × α)} :
    xs.mapM (fun e => (g e.2).map fun b => (e.1, b)) = none ↔ ∃ e ∈ xs, g e.2 = none := by
  induction xs with
  | nil => simp
  | cons x xs ih =>
    rw [List.mapM_cons]
    cases hx : g x.2 with
    | none => simp [hx]
    | some b =>
      cases hxs : xs.mapM fun e => (g e.2).map fun b => (e.1, b) with
      | none =>
        obtain ⟨e, he, hg⟩ := ih.mp hxs
        exact iff_of_true rfl ⟨e, List.mem_cons_of_mem _ he, hg⟩
      | some ys =>
        have all : ¬ ∃ e ∈ xs, g e.2 = none := fun h => by cases hxs.symm.trans (ih.mpr h)
        simp [hx, all]

namespace Registry

variable (r : Registry) (find : Nat → Option Metrics)

theorem map_fst_live :
    (r.live find).map Prod.fst =
      (r.entries.filter fun e => (find e.2).isSome).map Prod.fst := by
  rw [live]
  induction r.entries with
  | nil => rfl
  | cons e es ih =>
    cases h : find e.2 with
    | none => simpa [h] using ih
    | some m => simpa [h] using ih

/-- **Pruning changes nothing of what is live.** -/
theorem live_prune : (r.prune find).2.live find = r.live find := by
  rw [live, live, prune, List.filterMap_filter]
  refine List.filterMap_congr fun e _ => ?_
  cases find e.2 <;> rfl

theorem checkAll_prune (time : Instant) :
    (r.prune find).2.checkAll find time = r.checkAll find time := by
  rw [checkAll, checkAll, live_prune]
  rfl

theorem ofSnapshot?_eq_none_iff (s : Metrics.Snapshot) (capacity : Nat) :
    Rates.ofSnapshot? s capacity = none ↔ maxWord < s.logged + s.dropped := by
  rw [Rates.ofSnapshot?]
  split
  · exact iff_of_true rfl ‹_›
  · exact iff_of_false nofun ‹_›

/-- There is no report where the counters cannot be added. -/
theorem reportOn_eq_none_iff (time : Instant) (m : Metrics) :
    r.reportOn time m = none ↔ maxWord < m.logged + m.dropped := by
  rw [reportOn, Report.check?, Option.map_eq_none_iff]
  exact ofSnapshot?_eq_none_iff _ _

/-- Reports at different times tell the same apart from the time. -/
theorem reportOn_time (time time' : Instant) (m : Metrics) :
    r.reportOn time' m = (r.reportOn time m).map fun x => { x with time := time' } := by
  rw [reportOn, reportOn, Report.check?, Report.check?, Option.map_map]
  rfl

/-- What is read off a registry, by a book. -/
structure Shows (r : Registry) (b : Book) : Prop where
  /-- A name with a live logger has the report on it. -/
  found : ∀ time name m, b.live name = some m → r.check b.loggers time name = b.reportOn time m
  expired : ∀ time name n, b.names name = some n → b.loggers n = none →
    r.check b.loggers time name = some (.unavailable ("Logger expired: " ++ name) time)
  unknown : ∀ time name, b.names name = none →
    r.check b.loggers time name = some (.unavailable ("Logger not found: " ++ name) time)
  /-- All reports are those on the names with live loggers, in ascending order, each once. -/
  listed : ∀ time reports, r.checkAll b.loggers time = some reports →
    Ascending (reports.map Prod.fst) ∧ ∀ name report, (name, report) ∈ reports ↔
      ∃ m, b.live name = some m ∧ b.reportOn time m = some report
  /-- There are none only where the counters of a live logger cannot be added. -/
  overflows : ∀ time, r.checkAll b.loggers time = none ↔
    ∃ name m, b.live name = some m ∧ maxWord < m.logged + m.dropped
  /-- A name by itself has the report it has among all, but for the time. -/
  alike : ∀ time time' reports, r.checkAll b.loggers time = some reports →
    ∀ name report, (name, report) ∈ reports →
      r.check b.loggers time' name = some { report with time := time' }
  /-- The worst grade among all is the grade of the whole, and the document says so. -/
  worst : ∀ time reports, r.checkAll b.loggers time = some reports →
    ∃ g, r.overall b.loggers time = some g ∧
      (∀ e ∈ reports, e.2.grade.rank ≤ g.rank) ∧
      (g = .healthy ∨ ∃ e ∈ reports, e.2.grade = g) ∧
      r.document b.loggers time = some (.object
        [("loggers", .array (reports.map fun e =>
            .object (insertEntry "name" (.text e.1) e.2.members))),
          ("overall_status", .text g.name)])
  /-- Pruning counts the names whose logger is gone. -/
  pruned : ∃ gone : List String, gone.Nodup ∧
    (∀ name, name ∈ gone ↔ ∃ n, b.names name = some n ∧ b.loggers n = none) ∧
    (r.prune b.loggers).1 = gone.length
  /-- And it changes nothing of what is told of all. -/
  undisturbed : ∀ time,
    (r.prune b.loggers).2.checkAll b.loggers time = r.checkAll b.loggers time ∧
    (r.prune b.loggers).2.overall b.loggers time = r.overall b.loggers time ∧
    (r.prune b.loggers).2.document b.loggers time = r.document b.loggers time

end Registry

namespace Holds

open Registry

variable {b : Book} {w : World} (h : Holds b w)

include h

theorem reportOn (time : Instant) (m : Metrics) :
    w.registry.reportOn time m = b.reportOn time m := by
  rw [Registry.reportOn, h.thresholds]
  rfl

theorem mem_live_iff (name : String) (m : Metrics) :
    (name, m) ∈ w.registry.live b.loggers ↔ b.live name = some m := by
  rw [Registry.live, List.mem_filterMap, Book.live, Option.bind_eq_some_iff]
  constructor
  · rintro ⟨⟨first, n⟩, he, hm⟩
    obtain ⟨m', hm', e⟩ := Option.map_eq_some_iff.mp hm
    obtain ⟨rfl, rfl⟩ := Prod.mk.inj e
    exact ⟨n, h.lookup first ▸ (h.ascending.mem_iff_lookup first n).mp he, hm'⟩
  · rintro ⟨n, hn, hm⟩
    have he : (name, n) ∈ w.registry.entries :=
      (h.ascending.mem_iff_lookup name n).mpr ((h.lookup name).trans hn)
    exact ⟨(name, n), he, by rw [hm]; rfl⟩

theorem check_eq (time : Instant) (name : String) :
    w.registry.check b.loggers time name =
      match b.names name with
      | none => some (.unavailable ("Logger not found: " ++ name) time)
      | some n =>
        match b.loggers n with
        | none => some (.unavailable ("Logger expired: " ++ name) time)
        | some m => b.reportOn time m := by
  rw [Registry.check, h.lookup]
  cases b.names name with
  | none => rfl
  | some n =>
    cases hn : b.loggers n with
    | none => simp only [hn]
    | some m => simp only [hn, h.reportOn]

theorem check_of_live {time : Instant} {name : String} {m : Metrics} (hm : b.live name = some m) :
    w.registry.check b.loggers time name = b.reportOn time m := by
  obtain ⟨n, hn, hl⟩ := Option.bind_eq_some_iff.mp hm
  rw [h.check_eq, hn]
  simp only [hl]

theorem mem_checkAll_iff {time : Instant} {reports : List (String × Report)}
    (all : w.registry.checkAll b.loggers time = some reports) (name : String) (report : Report) :
    (name, report) ∈ reports ↔ ∃ m, b.live name = some m ∧ b.reportOn time m = some report := by
  rw [(mapM_named_eq_some all).2]
  refine exists_congr fun m => ?_
  rw [h.mem_live_iff, h.reportOn]

theorem ascending_checkAll {time : Instant} {reports : List (String × Report)}
    (all : w.registry.checkAll b.loggers time = some reports) :
    Ascending (reports.map Prod.fst) := by
  rw [(mapM_named_eq_some all).1, map_fst_live]
  exact ascending_filter h.ascending _

/-- The names whose logger is gone are as many as pruning takes away. -/
theorem exists_gone : ∃ gone : List String, gone.Nodup ∧
    (∀ name, name ∈ gone ↔ ∃ n, b.names name = some n ∧ b.loggers n = none) ∧
    (w.registry.prune b.loggers).1 = gone.length := by
  have gone := ascending_filter h.ascending fun e => !(b.loggers e.2).isSome
  refine ⟨_, gone.nodup, fun name => ?_, ?_⟩
  · rw [List.mem_map]
    constructor
    · rintro ⟨⟨first, n⟩, he, rfl⟩
      obtain ⟨mem, dead⟩ := List.mem_filter.mp he
      refine ⟨n, h.lookup first ▸ (h.ascending.mem_iff_lookup first n).mp mem, ?_⟩
      simpa using dead
    · rintro ⟨n, hn, dead⟩
      have mem : (name, n) ∈ w.registry.entries :=
        (h.ascending.mem_iff_lookup name n).mpr ((h.lookup name).trans hn)
      exact ⟨(name, n), List.mem_filter.mpr ⟨mem, by simp [dead]⟩, rfl⟩
  · have parts := List.length_eq_length_filter_add (l := w.registry.entries)
      fun e => (b.loggers e.2).isSome
    rw [Registry.prune, List.length_map]
    dsimp only
    omega

/-- **A registry shows what the book says that it holds.** -/
theorem shows : w.registry.Shows b where
  found _ _ _ hm := h.check_of_live hm
  expired time name n hn dead := by
    rw [h.check_eq, hn]
    simp only [dead]
  unknown time name hn := by rw [h.check_eq, hn]
  listed _ _ all := ⟨h.ascending_checkAll all, h.mem_checkAll_iff all⟩
  overflows time := by
    rw [checkAll, mapM_named_eq_none_iff]
    constructor
    · rintro ⟨⟨name, m⟩, mem, none⟩
      exact ⟨name, m, (h.mem_live_iff name m).mp mem, (reportOn_eq_none_iff _ _ _).mp none⟩
    · rintro ⟨name, m, live, many⟩
      exact ⟨(name, m), (h.mem_live_iff name m).mpr live, (reportOn_eq_none_iff _ _ _).mpr many⟩
  alike time time' reports all name report mem := by
    obtain ⟨m, live, told⟩ := (h.mem_checkAll_iff all name report).mp mem
    rw [h.check_of_live live, ← h.reportOn, w.registry.reportOn_time time, h.reportOn, told]
    rfl
  worst time reports all := by
    obtain ⟨bound, mem⟩ := Grade.foldl_worse (reports.map fun e => e.2.grade) .healthy
    refine ⟨worstOf reports, by rw [overall, all]; rfl, fun e he => ?_, ?_, ?_⟩
    · exact bound _ (List.mem_cons_of_mem _ (List.mem_map.mpr ⟨e, he, rfl⟩))
    · exact (List.mem_cons.mp mem).imp_right List.mem_map.mp
    · rw [document, all]
      rfl
  pruned := h.exists_gone
  undisturbed time := by
    have same := w.registry.checkAll_prune b.loggers time
    exact ⟨same, by rw [overall, same]; rfl, by rw [document, same]; rfl⟩

end Holds

/-! ## 6. Any acts -/

/-- The counters of every logger can be added while few things were counted. -/
theorem fits_of_few {b : Book} {acts : List Act} {bound : Nat}
    (few : ∀ n m, b.loggers n = some m →
      m.logged + m.dropped + acts.countP Act.isNote ≤ bound) :
    ∀ n m, (b.run acts).loggers n = some m → m.logged + m.dropped ≤ bound := by
  induction acts generalizing b with
  | nil => exact few
  | cons a acts ih =>
    refine ih (b := b.step a) (Act.affect_bound fun n m hm => ?_)
    rw [← List.countP_cons]
    exact few n m hm

/-- **After any acts the registry shows what the book says**: of a name, of all names, as the worst
grade, in the document, and in what pruning takes away. The thresholds are those that were set last.
A name stands for what its last registration said, unless the registry was pruned of it when its
logger was gone; one whose logger is there stands for just that. All reports can be given while
fewer than `2^64` things were counted. -/
theorem shows_live_loggers (t : Thresholds) (loggers : Loggers) (acts : List Act) :
    let w := World.run { registry := { thresholds := t }, loggers := loggers } acts
    let b := Book.run { thresholds := t, loggers := loggers } acts
    w.loggers = b.loggers ∧ w.registry.Shows b ∧
      b.thresholds = Act.lastThresholds t acts ∧
      (∀ name, b.names name = Act.latest name acts ∨
        b.names name = none ∧ ∃ n, Act.latest name acts = some n ∧ b.loggers n = none) ∧
      (∀ name n, (b.loggers n).isSome →
        (b.names name = some n ↔ Act.latest name acts = some n)) ∧
      ((∀ n m, loggers n = some m →
          m.logged + m.dropped + acts.countP Act.isNote ≤ maxWord) →
        ∀ time, ∃ reports, w.registry.checkAll b.loggers time = some reports) := by
  have holds := holds_run t loggers acts
  refine ⟨holds.loggers, holds.shows, Book.thresholds_run t loggers acts,
    Book.names_run t loggers acts, Book.names_run_iff_latest t loggers acts, fun few time => ?_⟩
  by_contra none_told
  have none := Option.eq_none_iff_forall_ne_some.mpr fun reports h => none_told ⟨reports, h⟩
  obtain ⟨name, m, live, many⟩ := (holds.shows.overflows time).mp none
  obtain ⟨n, -, hn⟩ := Option.bind_eq_some_iff.mp live
  exact Nat.lt_irrefl _ (Nat.lt_of_lt_of_le many (fits_of_few few n m hn))

/-- The name goes over to a second logger, and the first is not missed. When the second is gone the
name is still there, until the registry is pruned. -/
example :
    let w := World.run { loggers := fun _ => some {} }
      [.register "web" 0, .register "job" 1, .register "web" 2, .drop 0, .drop 2]
    w.registry.check w.loggers ⟨0, 0⟩ "web" =
        some (.unavailable "Logger expired: web" ⟨0, 0⟩) ∧
      (w.registry.live w.loggers).map Prod.fst = ["job"] ∧
      (w.registry.prune w.loggers).1 = 1 ∧
      (w.step .prune).registry.check w.loggers ⟨0, 0⟩ "web" =
        some (.unavailable "Logger not found: web" ⟨0, 0⟩) :=
  ⟨rfl, rfl, rfl, rfl⟩

end Logworks.Health
