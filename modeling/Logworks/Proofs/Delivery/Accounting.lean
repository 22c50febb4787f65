import Logworks.Proofs.Delivery.Relay
import Mathlib.Data.List.Induction
import Mathlib.Data.List.Nodup

/-!
# What became of every call

The level of the logger is asked twice: when a call begins, and again when the worker comes with its
record. In between it may have been raised. So a record that entered the queue can end in four ways:
it is lost there, it is logged, a filter refuses it, or the level turns it away after all. The last
is the one that nothing counts. This file says so:

* `counts_step` -- **one delivery moves one of two counters by one, if the level lets the record
  through; nothing else moves them**;
* `every_call_accounted` -- the sum over a run;
* `not_counted_if_turned_away` -- without those turned away it would not come out.
-/

namespace Logworks

open Fanout

variable {π ι : Type}

/-! ## 1. One delivery -/

theorem count_of_isQuiet {e : Event} (he : e.isQuiet = false) {es : List Event}
    (quiet : ∀ e ∈ es, e.isQuiet = true) : es.count e = 0 := by
  refine List.count_eq_zero.mpr fun hm => ?_
  rw [quiet e hm] at he
  cases he

/-- One of the two counters went up by one, the other stayed. -/
def Tally.Up (before after : Tally) : Prop :=
  after = { before with logged := wrapWord (before.logged + 1) } ∨
    after = { before with filtered := wrapWord (before.filtered + 1) }

/-- What a delivery does to the counters. -/
theorem tally_of_comes {l : Logger π ι} {trees : List (SinkTree ι)} {eval : π → Scene → Trial}
    {x : Setting} {d : Draft} {cs : List (ι × Call)} {es : List Event} {thrown : Option Payload}
    (h : l.Comes trees eval x d cs es thrown) (m : Metrics) :
    (l.isEnabled d.level = true ∧ thrown = none ∧ m.tally.Up (es.foldl Metrics.note m).tally) ∨
      ((l.isEnabled d.level = false ∨ ∃ e, thrown = some e) ∧
        (es.foldl Metrics.note m).tally = m.tally) := by
  cases h with
  | off off => exact .inr ⟨.inl off, rfl⟩
  | refused qs on _ quiet =>
    refine .inl ⟨on, rfl, .inr ?_⟩
    rw [List.foldl_append, ← Logger.tally_foldl_of_isQuiet quiet m, List.foldl_cons, List.foldl_nil]
    rfl
  | delivered qs on _ quiet =>
    refine .inl ⟨on, rfl, .inl ?_⟩
    rw [List.foldl_append, ← Logger.tally_foldl_of_isQuiet quiet m, List.foldl_cons, List.foldl_nil]
    rfl
  | thrown e _ on _ quiet =>
    exact .inr ⟨.inr ⟨e, rfl⟩, Logger.tally_foldl_of_isQuiet quiet m⟩

namespace Delivery

/-- **An act lets one verdict be known**: that the record was delivered, or that it was refused. A
record that is turned away, one at which a predicate throws, and a flush, let none be known. -/
theorem Act.Genuine.verdicts {a : Act π ι} (h : a.Genuine) :
    a.events.count .delivered + a.events.count .refused + (if a.isTurnedAway then 1 else 0) +
      (if a.thrown?.isSome then 1 else 0) = if a.post?.isSome then 1 else 0 := by
  cases h with
  | flushed trees cs es o hc =>
    have quiet := (Logger.course_flushRound trees hc).1
    have none_delivered := count_of_isQuiet (e := .delivered) rfl quiet
    have none_refused := count_of_isQuiet (e := .refused) rfl quiet
    simp [events, isTurnedAway, thrown?, post?, none_delivered, none_refused]
  | gave l trees eval p thread time cs es thrown hc =>
    cases Logger.comes_of_course hc with
    | off off =>
      have off : l.isEnabled p.level = false := off
      simp [events, isTurnedAway, thrown?, post?, off]
    | refused qs on _ quiet | delivered qs on _ quiet | thrown _ _ on _ quiet =>
      have on : l.isEnabled p.level = true := on
      have none_delivered := count_of_isQuiet (e := .delivered) rfl quiet
      have none_refused := count_of_isQuiet (e := .refused) rfl quiet
      simp [events, isTurnedAway, thrown?, post?, on, none_delivered, none_refused]

/-- Over some acts: each record comes to one of four ends. -/
theorem length_postsOf {acts : List (Act π ι)} (h : ∀ a ∈ acts, a.Genuine) :
    heard .delivered acts + heard .refused acts + acts.countP Act.isTurnedAway +
      acts.countP (fun a => a.thrown?.isSome) = (postsOf acts).length := by
  induction acts using List.reverseRecOn with
  | nil => rfl
  | append_singleton acts a ih =>
    have before := ih fun b hb => h b (List.mem_append_left _ hb)
    have last := (h a (by simp)).verdicts
    rw [heard_concat, heard_concat, List.countP_append, List.countP_append, postsOf_append,
      List.length_append, List.countP_singleton, List.countP_singleton]
    have one : (postsOf [a]).length = if a.post?.isSome then 1 else 0 := by
      cases hp : a.post? <;> simp [postsOf, hp]
    omega

/-! ## 2. All calls -/

/-- Once the queue is empty and every call has ended, each record is with the worker or lost. -/
theorem Traffic.Booked.length_of_done {m : Metrics} {s : Traffic} (h : s.Booked m)
    (done : ∀ c ∈ s.calls, c.progress = .finished) (empty : s.queue.items = []) :
    s.ledger.handed.length + s.ledger.lost.length = s.calls.length := by
  have once : ∀ k, (s.ledger.handed ++ s.ledger.lost).count k =
      if k < s.calls.length then 1 else 0 := by
    intro k
    have hk := h.once k
    have closed : openCount s.calls k = 0 := by
      by_cases hlt : k < s.calls.length
      · have hc := List.getElem?_eq_getElem hlt
        rw [openCount_of_some hc, if_pos (done _ (List.getElem_mem hlt))]
      · simp [openCount, hlt]
    rw [closed, Ledger.places, Ledger.queued, h.slots_of_empty empty, List.filterMap_nil,
      List.count_nil] at hk
    rw [List.count_append]
    omega
  have nodup : (s.ledger.handed ++ s.ledger.lost).Nodup := by
    refine List.nodup_iff_count_le_one.mpr fun k => ?_
    rw [once k]
    split <;> omega
  have perm : (s.ledger.handed ++ s.ledger.lost).Perm (List.range s.calls.length) := by
    refine (List.perm_ext_iff_of_nodup nodup List.nodup_range).mpr fun k => ?_
    rw [← List.count_pos_iff, once k, List.mem_range]
    split <;> omega
  have hlen := perm.length_eq
  rwa [List.length_append, List.length_range] at hlen

namespace Relay

variable {s t : Relay π ι} {m : Metrics}

/-- How many records the level of the logger turned away when the worker came with them. -/
def turnedAway (s : Relay π ι) : Nat := s.acts.countP Act.isTurnedAway

/-- **One delivery moves one counter by one, if the level lets the record through**, and no
predicate throws. No other step moves them, nor does a delivery otherwise. -/
theorem counts_step (h : Step s t) :
    (t.traffic.ledger.dispatched = s.traffic.ledger.dispatched ∧
      t.traffic.metrics.tally = s.traffic.metrics.tally) ∨
    ∃ p, t.traffic.ledger.dispatched = s.traffic.ledger.dispatched ++ [p] ∧
      ((s.logger.isEnabled p.level = true ∧
        s.traffic.metrics.tally.Up t.traffic.metrics.tally) ∨
      ((s.logger.isEnabled p.level = false ∨ ∃ e, t.traffic.worker = .crashed e) ∧
        t.traffic.metrics.tally = s.traffic.metrics.tally)) := by
  cases h with
  | tune _ _ => exact .inl ⟨rfl, rfl⟩
  | call _ _ _ _ => exact .inl ⟨rfl, rfl⟩
  | aside t' ha => exact .inl ⟨ha.dispatched, ha.tally⟩
  | sweep cs es o _ hc =>
    have quiet := (Logger.course_flushRound s.trees hc).1
    exact .inl ⟨rfl, Logger.tally_foldl_of_isQuiet quiet s.traffic.metrics⟩
  | flushAlone j cs es o _ hc =>
    have quiet := (Logger.course_flushRound s.trees hc).1
    exact .inl ⟨rfl, Logger.tally_foldl_of_isQuiet quiet s.traffic.metrics⟩
  | deliver eval p isDraining thread time cs es thrown hw hc =>
    refine .inr ⟨p, rfl, ?_⟩
    rcases tally_of_comes (Logger.comes_of_course hc) s.traffic.metrics with
      ⟨on, _, up⟩ | ⟨off | ⟨e, rfl⟩, same⟩
    · exact .inl ⟨on, up⟩
    · exact .inr ⟨.inl off, same⟩
    · refine .inr ⟨.inr ⟨e, ?_⟩, same⟩
      show s.traffic.worker.delivered (some e) = .crashed e
      rw [hw]
      rfl

/-- **Every call is accounted for, whatever is done to the logger meanwhile.**

* When the logger is called with a record whose level it lets through, one of the counters of what
  was logged and what was filtered goes up by one and the other stays, unless a predicate throws.
  With a record whose level it has come to turn away neither moves. Nothing else moves them.
* If no predicate threw, then once the queue is empty, every call has ended and the worker has
  nothing in hand, the calls are as many as were logged, filtered, dropped and turned away. -/
theorem every_call_accounted {capacity : Nat} {policy : Policy} {l : Logger π ι}
    {trees : List (SinkTree ι)} (h : Reachable (start capacity policy m l trees) s) :
    (∀ t, Step s t →
      (t.traffic.ledger.dispatched = s.traffic.ledger.dispatched ∧
        t.traffic.metrics.tally = s.traffic.metrics.tally) ∨
      ∃ p, t.traffic.ledger.dispatched = s.traffic.ledger.dispatched ++ [p] ∧
        ((s.logger.isEnabled p.level = true ∧
          s.traffic.metrics.tally.Up t.traffic.metrics.tally) ∨
        ((s.logger.isEnabled p.level = false ∨ ∃ e, t.traffic.worker = .crashed e) ∧
          t.traffic.metrics.tally = s.traffic.metrics.tally))) ∧
    ((∀ a ∈ s.acts, a.thrown? = none) → s.traffic.queue.items = [] →
      (∀ c ∈ s.traffic.calls, c.progress = .finished) → s.traffic.worker.inHand = [] →
      wrapWord (s.traffic.metrics.logged + s.traffic.metrics.filtered +
          s.traffic.metrics.dropped + s.turnedAway) =
        wrapWord (m.logged + m.filtered + m.dropped + s.traffic.calls.length)) := by
  refine ⟨fun t hs => counts_step hs, fun calm empty done hands => ?_⟩
  have hb := Traffic.booked_of_reachable (traffic_of_reachable h)
  have hr := recorded_of_reachable h
  have calls := hb.length_of_done done empty
  have handed := hb.inHand.length_eq
  rw [hands, List.append_nil] at handed
  have ends := length_postsOf hr.genuine
  have none_thrown : s.acts.countP (fun a => a.thrown?.isSome) = 0 := by
    refine List.countP_eq_zero.mpr fun a ha => ?_
    simp [calm a ha]
  rw [hr.posts, none_thrown] at ends
  have logged := hr.logged
  have filtered := hr.filtered
  have dropped := hb.counted
  unfold turnedAway
  unfold wrapWord UInt64.size at logged filtered dropped ⊢
  omega

/-- Two records are queued, and the first is delivered. -/
def halfway : Relay Predicate Nat :=
  let first := ((start 8 .dropNewest {} plainLog [.leaf "sink" 0]).begin 0 ⟨.info, "one", {}⟩
    ).produced 0 |>.produced 0
  let second := (first.begin 0 ⟨.info, "two", {}⟩).produced 1 |>.produced 1
  second.worked.given ⟨.info, "one", {}⟩ [(0, .log "svc" .info "one")] [.delivered] none |>.worked

/-- Then the level is raised ... -/
def raised : Relay Predicate Nat := { halfway with logger := { plainLog with level := .error } }

/-- ... and the worker comes with the second. -/
def outgrown : Relay Predicate Nat := raised.given ⟨.info, "two", {}⟩ [] [] none

theorem reachable_halfway :
    Reachable (start 8 .dropNewest {} plainLog [.leaf "sink" 0]) halfway := by
  have begun : Reachable (start 8 .dropNewest {} plainLog [.leaf "sink" 0])
      (start 8 .dropNewest {} plainLog [.leaf "sink" 0]) := .start
  have first := begun.begin 0 ⟨.info, "one", {}⟩ rfl Traffic.isFree_start |>.produced 0 |>.produced 0
  have second := first.begin 0 ⟨.info, "two", {}⟩ rfl (by unfold Traffic.IsFree; decide)
    |>.produced 1 |>.produced 1
  have course : Round.Course (plainLog.logRound [.leaf "sink" 0] Predicate.eval ⟨{}, none, ⟨0, 0⟩⟩
      ⟨.info, "one", {}⟩) [(0, .log "svc" .info "one")] [.delivered] none :=
    .call _ _ _ .ok _ _ _ (.event _ _ _ _ _ (.done none))
  exact (Reachable.step _ _ second.worked
    (.deliver _ Predicate.eval ⟨.info, "one", {}⟩ false none ⟨0, 0⟩ _ _ _ rfl course)).worked

theorem reachable_raised : Reachable (start 8 .dropNewest {} plainLog [.leaf "sink" 0]) raised :=
  .step _ _ reachable_halfway (.tune _ _ _)

theorem step_outgrown : Step raised outgrown :=
  .deliver _ Predicate.eval ⟨.info, "two", {}⟩ false none ⟨0, 0⟩ [] [] none rfl (.done none)

theorem reachable_outgrown :
    Reachable (start 8 .dropNewest {} plainLog [.leaf "sink" 0]) outgrown :=
  .step _ _ reachable_raised step_outgrown

theorem calm_outgrown : ∀ a ∈ outgrown.acts, a.thrown? = none := by decide

theorem every_call_accounted_outgrown :
    outgrown.traffic.calls.length = 2 ∧ outgrown.turnedAway = 1 ∧
      wrapWord (outgrown.traffic.metrics.logged + outgrown.traffic.metrics.filtered +
        outgrown.traffic.metrics.dropped + 1) = 2 := by
  obtain ⟨-, balance⟩ := every_call_accounted reachable_outgrown
  exact ⟨rfl, rfl, balance calm_outgrown rfl (by decide) rfl⟩

/-- **A record that is turned away moves no counter**, and the calls are not as many as were logged,
filtered and dropped. -/
theorem not_counted_if_turned_away :
    (¬ ∀ (capacity : Nat) (policy : Policy) (m : Metrics) (l : Logger Predicate Nat)
      (trees : List (SinkTree Nat)) (s t : Relay Predicate Nat) (p : Post),
      Reachable (start capacity policy m l trees) s → Step s t →
      t.traffic.ledger.dispatched = s.traffic.ledger.dispatched ++ [p] →
      (∀ a ∈ t.acts, a.thrown? = none) → s.traffic.metrics.tally.Up t.traffic.metrics.tally) ∧
    ¬ ∀ (capacity : Nat) (policy : Policy) (m : Metrics) (l : Logger Predicate Nat)
      (trees : List (SinkTree Nat)) (s : Relay Predicate Nat),
      Reachable (start capacity policy m l trees) s → (∀ a ∈ s.acts, a.thrown? = none) →
      s.traffic.queue.items = [] → (∀ c ∈ s.traffic.calls, c.progress = .finished) →
      s.traffic.worker.inHand = [] →
      wrapWord (s.traffic.metrics.logged + s.traffic.metrics.filtered +
          s.traffic.metrics.dropped) =
        wrapWord (m.logged + m.filtered + m.dropped + s.traffic.calls.length) := by
  constructor
  · intro h
    have up := h 8 .dropNewest {} plainLog [.leaf "sink" 0] raised outgrown ⟨.info, "two", {}⟩
      reachable_raised step_outgrown rfl calm_outgrown
    exact absurd up (by unfold Tally.Up; decide)
  · intro h
    have balance := h 8 .dropNewest {} plainLog [.leaf "sink" 0] outgrown reachable_outgrown
      calm_outgrown rfl (by decide) rfl
    exact absurd balance (by decide)

end Relay

end Delivery

end Logworks
