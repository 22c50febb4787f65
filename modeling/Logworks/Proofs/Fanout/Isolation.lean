import Logworks.Proofs.Fanout.Changes
import Logworks.Proofs.Fanout.Course
import Mathlib.Algebra.GroupWithZero.Nat
import Mathlib.Data.List.Forall2
import Mathlib.Data.List.Induction

/-!
# A logger in use

Records come to a logger one after the other, and in between it is changed: its level, its sinks,
its filters, its context. Every sink may fail or crash, and every predicate may throw. This file
fixes

* `Share` -- what one of the sinks of a logger did with a record, with its own answer;
  `shares_of_deliver` -- **each sink has its share, in order, whatever the others answered**;
* `Logger.turn`, `Logger.turns` -- what comes of one thing that is asked of a logger, and of one
  after the other, by what the sinks answer;
* `Logger.Turn.Fair` -- what a turn may come to: nothing at all, one refusal counted and no more, or
  each attached sink called once and the failures counted; `fair_turn`;
* `configured_afterwards` -- **what is attached at a moment is what the changes up to then have left
  there**;
* `sinks_served_apart` -- **every turn of a run is fair, each before the logger of its moment, and
  the counters add up**.

NOT here: the time a delivery takes (it is none), and calls from several threads at once: a logger
takes them one after the other. To print a report, to put a fault into words and to drop what a sink
threw is taken not to throw.
-/

namespace Logworks

open Fanout

variable {π ι : Type}

/-! ## 1. Shares -/

namespace Fanout

/-- What one of the sinks of a logger did with a call. -/
structure Share (ι : Type) where
  tree : SinkTree ι
  /-- What was asked of the sinks below it, and their answers. -/
  answers : List (Answer ι)
  events : List Event
  /-- Its own answer. -/
  outcome : Outcome

/-- It was given this call, once. -/
def Share.Took (c : Call) (s : Share ι) : Prop :=
  Round.Answered (s.tree.round c) s.answers s.events s.outcome

/-- A sink that stands for itself is asked once, and its answer is the one that counts. -/
theorem Share.Took.of_leaf {c : Call} {s : Share ι} {name : String} {i : ι} (h : s.Took c)
    (leaf : s.tree = .leaf name i) : s.answers = [⟨i, c, s.outcome⟩] := by
  unfold Share.Took at h
  rw [leaf, SinkTree.round] at h
  generalize s.answers = rs at h ⊢
  generalize s.events = es at h
  cases h with
  | call _ _ _ _ _ _ _ h =>
    cases h
    rfl

/-- How many sinks did not answer that all is well. -/
def failures (shares : List (Share ι)) : Nat := shares.countP fun s => s.outcome != .ok

theorem failure_not_mem_branchReport (child : String) (c : Call) (o : Outcome) :
    Event.failure ∉ branchReport child c o := by
  cases o with
  | ok => exact List.not_mem_nil
  | failed f =>
    simp only [branchReport]
    split <;> simp
  | crashed p => simp [branchReport]

open Round in
mutual
/-- Below a tree nothing is counted: that is up to the logger. -/
theorem failure_not_mem_of_round (c : Call) :
    ∀ (t : SinkTree ι) {rs : List (Answer ι)} {es : List Event} {o : Outcome},
      Answered (t.round c) rs es o → Event.failure ∉ es
  | .leaf _ i, rs, es, o, h => by
    rw [SinkTree.round] at h
    cases h with
    | call _ _ _ _ _ _ _ h =>
      cases h
      exact List.not_mem_nil
  | .branch threshold children, rs, es, o, h => by
    rw [SinkTree.round] at h
    split at h
    · obtain ⟨rs₁, es₁, n, rs₂, es₂, h₁, h₂, rfl, rfl⟩ := h.of_bind
      cases h₂
      rw [List.append_nil]
      exact failure_not_mem_of_roundAll c children h₁
    · cases h
      exact List.not_mem_nil

theorem failure_not_mem_of_roundAll (c : Call) :
    ∀ (ts : List (SinkTree ι)) {rs : List (Answer ι)} {es : List Event} {n : Nat},
      Answered (SinkTree.roundAll c ts) rs es n → Event.failure ∉ es
  | [], rs, es, n, h => by
    rw [SinkTree.roundAll] at h
    cases h
    exact List.not_mem_nil
  | t :: ts, rs, es, n, h => by
    rw [SinkTree.roundAll] at h
    obtain ⟨rs₁, es₁, o, rs₂, es₂, h₁, h₂, rfl, rfl⟩ := h.of_bind
    obtain ⟨es₃, h₃, rfl⟩ := h₂.of_events
    obtain ⟨rs₄, es₄, m, rs₅, es₅, h₄, h₅, rfl, rfl⟩ := h₃.of_bind
    cases h₅
    have first := failure_not_mem_of_round c t h₁
    have rest := failure_not_mem_of_roundAll c ts h₄
    simp [first, rest, failure_not_mem_branchReport]
end

end Fanout

namespace Logger

theorem count_failure_logReport (logger sink : String) (o : Outcome) :
    (logReport logger sink o).count .failure = if o != .ok then 1 else 0 := by
  cases o with
  | ok => rfl
  | failed f =>
    simp only [logReport]
    split <;> rfl
  | crashed p => rfl

/-- **Each sink of a logger has its share in a delivery**, in order: it is called once, with the
same name, level and message, whatever the others answered. A failure is counted for each that did
not answer that all is well. -/
theorem shares_of_deliver (r : Record) :
    ∀ (trees : List (SinkTree ι)) {rs : List (Answer ι)} {es : List Event} {a : Unit},
      Round.Answered (deliver r trees) rs es a →
      ∃ shares : List (Share ι), shares.map Share.tree = trees ∧
        (∀ s ∈ shares, s.Took (.log r.logger r.level r.message)) ∧
        rs = shares.flatMap Share.answers ∧ es.count .failure = failures shares
  | [], rs, es, a, h => by
    rw [deliver] at h
    cases h with
    | event _ _ _ _ _ h =>
      cases h
      exact ⟨[], rfl, fun s hs => absurd hs List.not_mem_nil, rfl, rfl⟩
  | t :: ts, rs, es, a, h => by
    rw [deliver] at h
    obtain ⟨rs₁, es₁, o, rs₂, es₂, h₁, h₂, rfl, rfl⟩ := h.of_bind
    obtain ⟨es₃, h₃, rfl⟩ := h₂.of_events
    obtain ⟨shares, rfl, took, rfl, counted⟩ := shares_of_deliver r ts h₃
    refine ⟨⟨t, rs₁, es₁, o⟩ :: shares, rfl, fun s hs => ?_, rfl, ?_⟩
    · rcases List.mem_cons.mp hs with rfl | hs
      · exact h₁
      · exact took s hs
    · have below : es₁.count .failure = 0 :=
        List.count_eq_zero.mpr (failure_not_mem_of_round _ t h₁)
      rw [List.count_append, List.count_append, below, counted, count_failure_logReport,
        Nat.zero_add, Nat.add_comm, failures, failures, List.countP_cons]

/-! ## 2. Turns -/

theorem isEnabled_eq_false_iff {l : Logger π ι} {level : Level} :
    l.isEnabled level = false ↔ level = .off ∨ level < l.level := by
  have above : ¬ l.level ≤ level ↔ level < l.level := Nat.not_le
  simp [isEnabled, Level.admits, ← above, or_iff_not_imp_left]

/-- What may be asked of a logger. -/
inductive Command (π ι : Type) where
  /-- A record is logged, the predicates answering as they do then. -/
  | log (eval : π → Scene → Trial) (here : Setting) (d : Draft)
  | change (c : Change π ι)

/-- One thing that was asked of a logger. -/
structure Turn (π ι : Type) where
  before : Logger π ι
  command : Command π ι
  /-- The calls on sinks, with the answers. -/
  answers : List (Answer ι)
  /-- What the caller was given to catch. -/
  thrown : Option Payload
  after : Logger π ι

/-- What comes of it when the calls on sinks are answered so, one after the other. -/
def turn (tree : ι → SinkTree ι) (l : Logger π ι) : Command π ι → (Nat → Outcome) → Turn π ι
  | .log eval here d, reply =>
    let (answers, events, thrown) := (l.logRound (l.sinks.map tree) eval here d).answering reply
    ⟨l, .log eval here d, answers, thrown,
      { l with metrics := events.foldl Metrics.note l.metrics }⟩
  | .change c, _ => ⟨l, .change c, [], none, l.changed c⟩

/-- One command after the other, each with the answers of the sinks. -/
def turns (tree : ι → SinkTree ι) (l : Logger π ι) :
    List (Command π ι × (Nat → Outcome)) → List (Turn π ι)
  | [] => []
  | (c, reply) :: rest =>
    l.turn tree c reply :: turns tree (l.turn tree c reply).after rest

/-- The logger after some commands. -/
def afterwards (tree : ι → SinkTree ι) (l : Logger π ι)
    (asked : List (Command π ι × (Nat → Outcome))) : Logger π ι :=
  asked.foldl (fun l x => (l.turn tree x.1 x.2).after) l

@[simp] theorem before_turn (tree : ι → SinkTree ι) (l : Logger π ι) (c : Command π ι)
    (reply : Nat → Outcome) : (l.turn tree c reply).before = l := by
  cases c <;> rfl

/-- The change a command makes. -/
def Command.change? : Command π ι → Option (Change π ι)
  | .log _ _ _ => none
  | .change c => some c

/-- The changes among some commands, in order. -/
def changesOf (asked : List (Command π ι × (Nat → Outcome))) : List (Change π ι) :=
  asked.filterMap fun a => a.1.change?

@[simp] theorem afterwards_cons (tree : ι → SinkTree ι) (l : Logger π ι)
    (a : Command π ι × (Nat → Outcome)) (rest : List (Command π ι × (Nat → Outcome))) :
    l.afterwards tree (a :: rest) = (l.turn tree a.1 a.2).after.afterwards tree rest := rfl

namespace Turn

/-- The record passed the level and the filters. -/
def isDelivered (x : Turn π ι) : Bool :=
  match x.command with
  | .log eval here d => x.before.isEnabled d.level && x.before.verdict eval here d == .admits
  | .change _ => false

/-- The record passed the level and no further. -/
def isRefused (x : Turn π ι) : Bool :=
  match x.command with
  | .log eval here d => x.before.isEnabled d.level && x.before.verdict eval here d == .rejects
  | .change _ => false

end Turn

end Logger

/-- The metrics after a record went to all sinks, so many of which failed. -/
def Metrics.delivered (m : Metrics) (failed : Nat) : Metrics :=
  (Nat.repeat Metrics.recordError failed m).note .delivered

namespace Logger

/-- **What a turn may come to**, and how many of the attached sinks failed. -/
inductive Turn.Fair (tree : ι → SinkTree ι) : Turn π ι → Nat → Prop where
  | change (l : Logger π ι) (c : Change π ι) :
      Fair tree ⟨l, .change c, [], none, l.changed c⟩ 0
  /-- The level turns the record away: nothing changes. -/
  | off (l : Logger π ι) (eval : π → Scene → Trial) (here : Setting) (d : Draft)
      (h : d.level = .off ∨ d.level < l.level) : Fair tree ⟨l, .log eval here d, [], none, l⟩ 0
  /-- A filter refuses it: that is counted, and nothing else. -/
  | refused (l : Logger π ι) (eval : π → Scene → Trial) (here : Setting) (d : Draft)
      (on : l.isEnabled d.level = true) (h : l.verdict eval here d = .rejects) :
      Fair tree ⟨l, .log eval here d, [], none, { l with metrics := l.metrics.recordFiltered }⟩ 0
  /-- A predicate throws: the caller has it, and nothing changes. -/
  | thrown (l : Logger π ι) (eval : π → Scene → Trial) (here : Setting) (d : Draft) (p : Payload)
      (on : l.isEnabled d.level = true) (h : l.verdict eval here d = .throws p) :
      Fair tree ⟨l, .log eval here d, [], some p, l⟩ 0
  /-- It goes to every sink, and what is asked below them does not hang on any answer. -/
  | delivered (l : Logger π ι) (eval : π → Scene → Trial) (here : Setting) (d : Draft)
      (shares : List (Share ι)) (on : l.isEnabled d.level = true)
      (h : l.verdict eval here d = .admits) (all : shares.map Share.tree = l.sinks.map tree)
      (took : ∀ s ∈ shares, s.Took (.log l.name d.level d.message))
      (alone : ∀ s ∈ shares, ∀ name i, s.tree = .leaf name i →
        s.answers = [⟨i, .log l.name d.level d.message, s.outcome⟩])
      (asked : (shares.flatMap Share.answers).map Answer.asked =
        SinkTree.askedAll (.log l.name d.level d.message) (l.sinks.map tree)) :
      Fair tree ⟨l, .log eval here d, shares.flatMap Share.answers, none,
        { l with metrics := l.metrics.delivered (failures shares) }⟩ (failures shares)

theorem foldl_note_of_isQuiet {es : List Event} (quiet : ∀ e ∈ es, e.isQuiet = true)
    (m : Metrics) :
    es.foldl Metrics.note m = Nat.repeat Metrics.recordError (es.count .failure) m := by
  induction es using List.reverseRecOn with
  | nil => rfl
  | append_singleton es e ih =>
    rw [List.foldl_append, ih fun e he => quiet e (List.mem_append_left _ he), List.count_append]
    cases e with
    | notice _ | mark _ => rfl
    | failure => rfl
    | refused | delivered => cases quiet _ (List.mem_append_right _ List.mem_cons_self)

/-- Marks of predicates are not counted. -/
theorem foldl_note_markEvents (l : Logger π ι) (eval : π → Scene → Trial) (here : Setting)
    (d : Draft) (m : Metrics) : (l.markEvents eval here d).foldl Metrics.note m = m := by
  have quiet : ∀ e ∈ l.markEvents eval here d, e.isQuiet = true := fun e he => isQuiet_map_mark he
  have none_failed : (l.markEvents eval here d).count .failure = 0 :=
    List.count_eq_zero.mpr (by simp [markEvents])
  rw [foldl_note_of_isQuiet quiet, none_failed]
  rfl

/-- **Every course of a record is fair.** -/
theorem fair_of_answered {tree : ι → SinkTree ι} {l : Logger π ι} {eval : π → Scene → Trial}
    {here : Setting} {d : Draft} {rs : List (Answer ι)} {es : List Event} {thrown : Option Payload}
    (h : Round.Answered (l.logRound (l.sinks.map tree) eval here d) rs es thrown) :
    ∃ failed, Turn.Fair tree ⟨l, .log eval here d, rs, thrown,
      { l with metrics := es.foldl Metrics.note l.metrics }⟩ failed := by
  cases goes_of_answered h with
  | off off => exact ⟨0, .off l eval here d (isEnabled_eq_false_iff.mp off)⟩
  | thrown p on hv =>
    rw [foldl_note_markEvents]
    exact ⟨0, .thrown l eval here d p on hv⟩
  | refused on hv =>
    rw [List.foldl_append, foldl_note_markEvents]
    exact ⟨0, .refused l eval here d on hv⟩
  | delivered rs es on hv hd =>
    obtain ⟨asked, qs, rfl, quiet⟩ := course_deliver _ _ hd.course
    obtain ⟨shares, all, took, rfl, counted⟩ := shares_of_deliver _ _ hd
    have fails : qs.count .failure = failures shares := by
      rw [List.count_append] at counted
      exact counted
    rw [List.foldl_append, foldl_note_markEvents, List.foldl_append, foldl_note_of_isQuiet quiet,
      fails]
    exact ⟨failures shares, .delivered l eval here d shares on hv all took
      (fun s hs name i leaf => (took s hs).of_leaf leaf) asked⟩

/-- **Every turn is fair.** -/
theorem fair_turn (tree : ι → SinkTree ι) (l : Logger π ι) (c : Command π ι)
    (reply : Nat → Outcome) : ∃ failed, (l.turn tree c reply).Fair tree failed := by
  cases c with
  | change c => exact ⟨0, .change l c⟩
  | log eval here d => exact fair_of_answered (Round.answered_answering _ reply)

/-! ## 3. Runs -/

/-- What so many failures do to the metrics: one counter goes up by that many. -/
theorem repeat_recordError (m : Metrics) (n : Nat) :
    ∃ e, Nat.repeat Metrics.recordError n m = { m with errors := e } ∧
      wrapWord e = wrapWord (m.errors + n) := by
  induction n with
  | zero => exact ⟨m.errors, rfl, rfl⟩
  | succ n ih =>
    obtain ⟨e, he, count⟩ := ih
    refine ⟨wrapWord (e + 1), ?_, ?_⟩
    · rw [Nat.repeat, he]
      rfl
    · rw [wrapWord_wrapWord]
      exact wrapWord_add_congr 1 count

/-- The counters after some turns, by how many of them delivered, how many refused, and how often
a sink failed. -/
structure Counted (m m' : Metrics) (delivered refused failed : Nat) : Prop where
  logged : wrapWord m'.logged = wrapWord (m.logged + delivered)
  filtered : wrapWord m'.filtered = wrapWord (m.filtered + refused)
  errors : wrapWord m'.errors = wrapWord (m.errors + failed)
  dropped : m'.dropped = m.dropped

theorem Counted.refl (m : Metrics) : Counted m m 0 0 0 := ⟨rfl, rfl, rfl, rfl⟩

theorem Counted.trans {m₁ m₂ m₃ : Metrics} {d d' r r' f f' : Nat} (h : Counted m₁ m₂ d r f)
    (h' : Counted m₂ m₃ d' r' f') : Counted m₁ m₃ (d + d') (r + r') (f + f') where
  logged := by rw [h'.logged, ← Nat.add_assoc, wrapWord_add_congr d' h.logged]
  filtered := by rw [h'.filtered, ← Nat.add_assoc, wrapWord_add_congr r' h.filtered]
  errors := by rw [h'.errors, ← Nat.add_assoc, wrapWord_add_congr f' h.errors]
  dropped := h'.dropped.trans h.dropped

/-- What one fair turn does to the counters. -/
theorem Turn.Fair.counted {tree : ι → SinkTree ι} {x : Turn π ι} {failed : Nat}
    (h : x.Fair tree failed) :
    Counted x.before.metrics x.after.metrics x.isDelivered.toNat x.isRefused.toNat failed := by
  cases h with
  | change l c => cases c <;> exact .refl _
  | off l eval here d off =>
    simp only [isDelivered, isRefused, isEnabled_eq_false_iff.mpr off, Bool.false_and,
      Bool.toNat_false]
    exact .refl _
  | refused l eval here d on hv =>
    simp only [isDelivered, isRefused, on, hv]
    exact ⟨rfl, wrapWord_wrapWord _, rfl, rfl⟩
  | thrown l eval here d p on hv =>
    simp only [isDelivered, isRefused, on, hv]
    exact .refl _
  | delivered l eval here d shares on hv all took alone asked =>
    simp only [isDelivered, isRefused, on, hv]
    obtain ⟨e, he, count⟩ := repeat_recordError l.metrics (failures shares)
    rw [Metrics.delivered, he]
    exact ⟨wrapWord_wrapWord _, rfl, count, rfl⟩

/-- A turn is about what was asked, and its sinks answered so. -/
theorem turn_heeds (tree : ι → SinkTree ι) (l : Logger π ι) (c : Command π ι)
    (reply : Nat → Outcome) :
    (l.turn tree c reply).command = c ∧
      ∀ k a, (l.turn tree c reply).answers[k]? = some a → a.outcome = reply k := by
  cases c with
  | change c => exact ⟨rfl, fun k a h => by cases h⟩
  | log eval here d => exact ⟨rfl, fun k a h => Round.outcome_answering _ reply h⟩

/-- Every turn of a run is about what was asked. -/
theorem turns_heed (tree : ι → SinkTree ι) (l : Logger π ι)
    (asked : List (Command π ι × (Nat → Outcome))) :
    List.Forall₂ (fun a x => x.command = a.1 ∧
      ∀ k r, x.answers[k]? = some r → r.outcome = a.2 k) asked (l.turns tree asked) := by
  induction asked generalizing l with
  | nil => exact .nil
  | cons a rest ih => exact .cons (turn_heeds tree l a.1 a.2) (ih _)

/-- **Every turn of a run is fair**, and the counters are what the turns come to. -/
theorem counted_turns (tree : ι → SinkTree ι) (l : Logger π ι)
    (asked : List (Command π ι × (Nat → Outcome))) :
    ∃ failed : List Nat, List.Forall₂ (Turn.Fair tree) (l.turns tree asked) failed ∧
      Counted l.metrics (l.afterwards tree asked).metrics
        ((l.turns tree asked).countP Turn.isDelivered)
        ((l.turns tree asked).countP Turn.isRefused) failed.sum := by
  induction asked generalizing l with
  | nil => exact ⟨[], .nil, .refl _⟩
  | cons a rest ih =>
    obtain ⟨c, reply⟩ := a
    obtain ⟨failed, fair, counted⟩ := ih (l.turn tree c reply).after
    obtain ⟨n, hn⟩ := fair_turn tree l c reply
    refine ⟨n :: failed, .cons hn fair, ?_⟩
    have both := hn.counted.trans counted
    rw [before_turn] at both
    rw [turns, afterwards_cons, List.countP_cons, List.countP_cons, List.sum_cons]
    have toNat (b : Bool) : b.toNat = if b then 1 else 0 := by cases b <;> rfl
    simpa only [toNat, Nat.add_comm] using both

/-- **Each command leaves the logger as its change, if any, has made it.** -/
theorem Configured.turn {start l : Logger π ι} {history : List (Change π ι)}
    (h : start.Configured history l) (tree : ι → SinkTree ι) (c : Command π ι)
    (reply : Nat → Outcome) :
    start.Configured (history ++ c.change?.toList) (l.turn tree c reply).after := by
  cases c with
  | change c => exact h.changed c
  | log eval here d =>
    rw [Command.change?, Option.toList_none, List.append_nil]
    exact h.recounted _

/-- **What is attached to a logger, and its level and fields, is what the changes up to then have
left.** -/
theorem configured_afterwards (tree : ι → SinkTree ι) (l : Logger π ι)
    (asked : List (Command π ι × (Nat → Outcome))) :
    l.Configured (changesOf asked) (l.afterwards tree asked) := by
  induction asked using List.reverseRecOn with
  | nil => exact .refl l
  | append_singleton asked a ih =>
    have hlast : changesOf (asked ++ [a]) = changesOf asked ++ a.1.change?.toList := by
      rw [changesOf, List.filterMap_append]
      cases ha : a.1.change? <;> simp [changesOf, ha]
    rw [hlast, afterwards, List.foldl_append]
    exact ih.turn tree a.1 a.2

/-- Each turn goes from the logger after what was asked before to the one after it. -/
theorem turns_between (tree : ι → SinkTree ι) (l : Logger π ι)
    (asked : List (Command π ι × (Nat → Outcome))) (k : Nat) (x : Turn π ι)
    (h : (l.turns tree asked)[k]? = some x) :
    x.before = l.afterwards tree (asked.take k) ∧
      x.after = l.afterwards tree (asked.take (k + 1)) := by
  induction asked generalizing l k with
  | nil => cases h
  | cons a rest ih =>
    cases k with
    | zero =>
      cases h
      exact ⟨before_turn tree l a.1 a.2, rfl⟩
    | succ k => exact ih _ k h

/-- **Sinks are served apart from each other, and every record is counted**, whatever is asked of a
logger, whatever its sinks answer and its predicates throw: each turn is fair, before the sinks and
the filters that were attached by then, and the counters are what the turns come to. -/
theorem sinks_served_apart (tree : ι → SinkTree ι) (l : Logger π ι)
    (asked : List (Command π ι × (Nat → Outcome))) :
    List.Forall₂ (fun a x => x.command = a.1 ∧
        ∀ k r, x.answers[k]? = some r → r.outcome = a.2 k) asked (l.turns tree asked) ∧
      (∀ k x, (l.turns tree asked)[k]? = some x →
        x.before = l.afterwards tree (asked.take k) ∧
          x.after = l.afterwards tree (asked.take (k + 1))) ∧
      (∀ k, l.Configured (changesOf (asked.take k)) (l.afterwards tree (asked.take k))) ∧
      ∃ failed : List Nat, List.Forall₂ (Turn.Fair tree) (l.turns tree asked) failed ∧
        Counted l.metrics (l.afterwards tree asked).metrics
          ((l.turns tree asked).countP Turn.isDelivered)
          ((l.turns tree asked).countP Turn.isRefused) failed.sum :=
  ⟨turns_heed tree l asked, turns_between tree l asked,
    fun k => configured_afterwards tree l (asked.take k), counted_turns tree l asked⟩

/-- The predicate throws at the first record and refuses the second. Then three sinks take the place
of the one there was; the next record goes to them, of which one fails and one crashes. When the
level has gone up and the filters are gone, only a record of that level goes to them. -/
theorem sinks_served_apart_changing :
    let l : Logger Unit Nat :=
      { name := "web", sinks := [7], admission := { filters := [.predicate ()] } }
    let moody (_ : Unit) (s : Scene) : Trial :=
      if s.record.message = "oh" then ⟨.throws .other, []⟩ else .ofBool (s.record.message = "go")
    let log (level : Level) (m : String) : Command Unit Nat := .log moody {} ⟨level, m, {}⟩
    let commands := [log .info "oh", log .info "no", .change .clearSinks, .change (.addSink 0),
      .change (.addSink 1), .change (.addSink 2), log .info "go", .change (.level .error),
      .change .clearFilters, log .info "go", log .error "no"]
    let reply : Nat → Outcome := fun k => [.failed .stopped, .crashed .other].getD k .ok
    let asked := commands.map fun c => (c, reply)
    let tree : Nat → SinkTree Nat := .leaf "s"
    (l.turns tree asked).map Turn.thrown = some .other :: List.replicate 10 none ∧
      (l.afterwards tree (asked.take 6)).sinks = [0, 1, 2] ∧
      (l.afterwards tree (asked.take 10)).admission.filters.length = 0 ∧
      (l.afterwards tree (asked.take 10)).level = .error ∧
      (l.turns tree asked).map (fun x => x.answers.map Answer.sink) =
        [[], [], [], [], [], [], [0, 1, 2], [], [], [], [0, 1, 2]] ∧
      (l.afterwards tree asked).metrics.logged = 2 ∧
      (l.afterwards tree asked).metrics.filtered = 1 ∧
      (l.afterwards tree asked).metrics.errors = 4 := by
  intro l moody log commands reply asked tree
  obtain ⟨-, -, conf, -⟩ := sinks_served_apart tree l asked
  refine ⟨by decide, (conf 6).sinks, ?_, (conf 10).level, by decide, by decide, by decide,
    by decide⟩
  rw [(conf 10).filters]
  rfl

end Logger

end Logworks
