import Logworks.Proofs.Delivery.Marks
import Logworks.Proofs.Delivery.Relay
import Mathlib.Data.List.Infix

/-!
# A flush and the records before it

A flush that was told that all is well has met one of four fates. The worker came to its mark in
turn, and flushed the logger for it. The worker was emptying the queue, and answered without a
flush. The mark was thrown out to make room, and the caller flushed the logger itself. Or the queue
was stopped when the flush looked, and the caller flushed the logger without regard to the queue.
Only the first keeps what a flush is for: that the records before it were delivered and the sinks
flushed behind them. This file fixes

* `Fenced` -- **some records were lost, or the logger was called with them, and behind that its
  sinks were flushed**;
* `Stands` -- what is known of the records before a flush, by how far the flush has come;
* `fenced_if_flushed` -- the main fact: what a flush that went well is worth;
* `not_fenced_if_stopped` -- a flush that finds the queue stopped is worth nothing to a record that
  is in it.
-/

namespace Logworks.Delivery

open Fanout

variable {π ι : Type}

/-! ## 1. Settled records -/

/-- The records `E` are lost, or are among the first `n` that the worker was given. -/
def Ledger.Settled (l : Ledger) (E : List Nat) (n : Nat) : Prop :=
  ∀ k ∈ E, k ∈ l.lost ∨ k ∈ l.handed.take n

theorem Ledger.Settled.mono {l l' : Ledger} {E : List Nat} {n n' : Nat} (h : l.Settled E n)
    (hg : l.Grows l') (hn : n ≤ n') : l'.Settled E n' := by
  intro k hk
  refine (h k hk).imp (fun hm => hg.lost.subset hm) fun hm => ?_
  have longer : l.handed.take n <+: l'.handed.take n' :=
    (hg.handed.take n).trans (List.take_prefix_take_left hn)
  exact longer.subset hm

theorem Worker.length_inHand_le (w : Worker) : w.inHand.length ≤ 1 := by
  cases w <;> simp [inHand]

namespace Traffic

variable {m : Metrics} {s t : Traffic} {E : List Nat}

/-- Records that have left the queue are settled, but for one that the worker has in hand. -/
theorem Booked.settled_of_left (h : Booked m s) (left : ∀ k ∈ E, s.Left k) :
    s.ledger.Settled E (s.ledger.dispatched.length + s.worker.inHand.length) := by
  have hlen := h.inHand.length_eq
  rw [List.length_append] at hlen
  intro k hk
  rcases left k hk with hh | hl
  · refine .inr ?_
    rwa [List.take_of_length_le (by omega)]
  · exact .inl hl

theorem Booked.settled_of_left_idle (h : Booked m s) (idle : s.worker.inHand = [])
    (left : ∀ k ∈ E, s.Left k) : s.ledger.Settled E s.ledger.dispatched.length := by
  have settled := h.settled_of_left left
  rwa [idle] at settled

/-- What a step does to one flush: nothing, or it is the flush's own. -/
theorem flusher_step (hs : Step s t) {j : Nat} {f : Flusher} (hf : s.flushers[j]? = some f) :
    t.flushers[j]? = some f ∨
    (∃ next q, f.step? s.queue = some (next, q) ∧ t = { s with
      queue := q, flushers := s.flushers.set j next, ledger := s.ledger.afterMark s.queue q }) ∨
    (f = .alone ∧ t.flushers[j]? ≠ some .alone) ∨
    ∃ logger limit, t = { s with
      flushers := s.flushers.set j (f.expire logger limit s.queue) } := by
  have hlt := (List.getElem?_eq_some_iff.mp hf).1
  cases hs with
  | flush onWorker =>
    refine .inl ?_
    show (s.flushers ++ [.fresh onWorker])[j]? = some f
    rwa [List.getElem?_append_left hlt]
  | flushStep i g next q hg hstep =>
    by_cases e : i = j
    · subst e
      obtain rfl : g = f := Option.some.inj (hg.symm.trans hf)
      exact .inr (.inl ⟨next, q, hstep, rfl⟩)
    · refine .inl ?_
      show (s.flushers.set i next)[j]? = some f
      rwa [List.getElem?_set_ne e]
  | flushAlone i o es hg =>
    by_cases e : i = j
    · subst e
      obtain rfl : Flusher.alone = f := Option.some.inj (hg.symm.trans hf)
      refine .inr (.inr (.inl ⟨rfl, ?_⟩))
      show (s.flushers.set i (.finished o))[i]? ≠ some .alone
      rw [List.getElem?_set_self hlt]
      exact nofun
    · refine .inl ?_
      show (s.flushers.set i (.finished o))[j]? = some f
      rwa [List.getElem?_set_ne e]
  | flushLapse i g logger limit hg =>
    by_cases e : i = j
    · subst e
      obtain rfl : g = f := Option.some.inj (hg.symm.trans hf)
      exact .inr (.inr (.inr ⟨logger, limit, rfl⟩))
    · refine .inl ?_
      show (s.flushers.set i _)[j]? = some f
      rwa [List.getElem?_set_ne e]
  | call _ _ _ => exact .inl hf
  | produce _ _ _ _ _ _ _ => exact .inl hf
  | lapse _ _ _ _ _ => exact .inl hf
  | work _ _ _ _ => exact .inl hf
  | deliver _ _ _ _ _ => exact .inl hf
  | sweep _ _ _ => exact .inl hf
  | close _ => exact .inl hf
  | closeStep _ _ _ _ _ _ _ _ _ => exact .inl hf
  | closeLapse _ _ _ _ _ => exact .inl hf

end Traffic

/-! ## 2. What a flush is worth -/

namespace Relay

variable {m : Metrics} {capacity : Nat} {policy : Policy} {l : Logger π ι}
  {trees : List (SinkTree ι)} {s t : Relay π ι} {since : Nat} {E : List Nat}

/-- **The sinks were flushed behind the records `E`**, after the first `since` acts, and all went
well: each of the records was lost, or is one of the first that the worker was given, as many as the
logger had been called with by then and `late` more. -/
def Fenced (since : Nat) (E : List Nat) (late : Nat) (s : Relay π ι) : Prop :=
  ∃ before trees events after,
    s.acts = before ++ .flushed trees (SinkTree.askedAll .flush trees) events .ok :: after ∧
      since ≤ before.length ∧ s.traffic.ledger.Settled E ((postsOf before).length + late)

/-- What is known before a caller flushes the logger itself. -/
inductive Loose (policy : Policy) (E : List Nat) (s : Relay π ι) : Prop where
  | stopped (h : s.traffic.queue.isRunning = false) : Loose policy E s
  | settled (h : s.traffic.ledger.Settled E s.traffic.ledger.dispatched.length) : Loose policy E s
  /-- The mark was thrown out, and the records had left before it. -/
  | left (hp : policy = .dropOldest) (h : ∀ k ∈ E, s.traffic.Left k) : Loose policy E s

/-- What is known once a flush went well. -/
inductive Passed (policy : Policy) (since : Nat) (E : List Nat) (s : Relay π ι) : Prop where
  | fenced (h : s.Fenced since E 0) : Passed policy since E s
  | late (hp : policy = .dropOldest) (h : s.Fenced since E 1) : Passed policy since E s
  /-- The worker answered while it emptied the queue, its last flush still to come. -/
  | emptied (stopped : s.traffic.queue.isRunning = false)
      (h : s.traffic.ledger.Settled E s.traffic.ledger.dispatched.length) : Passed policy since E s
  /-- The caller flushed the logger itself. -/
  | alone (stopped : s.traffic.queue.isRunning = false) (h : s.Fenced since [] 0) :
      Passed policy since E s

/-- What an answer to the mark says. -/
def Worth (policy : Policy) (since : Nat) (E : List Nat) (s : Relay π ι) : Answer → Prop
  | .flushed (.ok _) => Passed policy since E s
  | .flushed (.error _) => True
  | .released => Loose policy E s

/-- **Where a flush stands** that found the records `E` in the queue and so many acts done. -/
inductive Stands (policy : Policy) (since : Nat) (E : List Nat) (s : Relay π ι) :
    Flusher → Prop where
  | fresh : Stands policy since E s (.fresh false)
  | marking : Stands policy since E s .marking
  | underway (T : Nat) (h : s.traffic.Underway E T) : Stands policy since E s (.waiting T)
  | told (T : Nat) (a : Answer) (ha : s.traffic.queue.answers.lookup T = some a)
      (h : Worth policy since E s a) : Stands policy since E s (.waiting T)
  | alone (h : Loose policy E s) : Stands policy since E s .alone
  | finished (o : Outcome) (h : o = .ok → Passed policy since E s) :
      Stands policy since E s (.finished o)

/-! ## 3. Nothing of it is lost again -/

theorem grows_step (hs : Step s t) : s.traffic.ledger.Grows t.traffic.ledger := by
  rcases traffic_step hs with e | hts
  · rw [e]
    exact Ledger.Grows.refl _
  · exact Traffic.ledger_step hts

theorem stopped_step (hs : Step s t) (h : s.traffic.queue.isRunning = false) :
    t.traffic.queue.isRunning = false := by
  rcases traffic_step hs with e | hts
  · rw [e]
    exact h
  · exact Traffic.isRunning_step hts h

theorem Fenced.mono {late : Nat} (h : Fenced since E late s) (hs : Step s t) :
    Fenced since E late t := by
  obtain ⟨before, trees, events, after, e, recent, settled⟩ := h
  obtain ⟨more, e'⟩ := acts_step hs
  refine ⟨before, trees, events, after ++ more, ?_, recent,
    settled.mono (grows_step hs) (Nat.le_refl _)⟩
  rw [← e', e, List.append_assoc, List.cons_append]

theorem settled_mono (hs : Step s t)
    (h : s.traffic.ledger.Settled E s.traffic.ledger.dispatched.length) :
    t.traffic.ledger.Settled E t.traffic.ledger.dispatched.length := by
  have grows := grows_step hs
  exact h.mono grows grows.dispatched.length_le

theorem Loose.mono (h : Loose policy E s) (hs : Step s t) : Loose policy E t := by
  cases h with
  | stopped h => exact .stopped (stopped_step hs h)
  | settled h => exact .settled (settled_mono hs h)
  | left hp h => exact .left hp fun k hk => (h k hk).mono (grows_step hs)

theorem Passed.mono (h : Passed policy since E s) (hs : Step s t) : Passed policy since E t := by
  cases h with
  | fenced h => exact .fenced (h.mono hs)
  | late hp h => exact .late hp (h.mono hs)
  | emptied stopped h => exact .emptied (stopped_step hs stopped) (settled_mono hs h)
  | alone stopped h => exact .alone (stopped_step hs stopped) (h.mono hs)

theorem Worth.mono {a : Answer} (h : Worth policy since E s a) (hs : Step s t) :
    Worth policy since E t a := by
  match a with
  | .flushed (.ok _) => exact Passed.mono h hs
  | .flushed (.error _) => trivial
  | .released => exact Loose.mono h hs

/-! ## 4. Each step keeps it -/

/-- A flush of the logger that went well, with all that was dispatched before it. -/
theorem fenced_of_act (hr : Recorded m s) (recent : since ≤ s.acts.length)
    {cs : List (ι × Call)} {es : List Event} {late : Nat}
    (hc : Round.Course (Logger.flushRound s.trees) cs es .ok)
    (et : t.acts = s.acts ++ [.flushed s.trees cs es .ok])
    (h : t.traffic.ledger.Settled E (s.traffic.ledger.dispatched.length + late)) :
    Fenced since E late t := by
  have all := (Logger.course_flushRound s.trees hc).2 fun _ => nofun
  subst all
  refine ⟨s.acts, s.trees, es, [], et, recent, ?_⟩
  rw [hr.posts]
  exact h

/-- A mark under way, and a step by which no flush of the worker ends. -/
theorem stands_of_underway (h : Reachable (start capacity policy m l trees) s)
    (hE : ∀ k ∈ E, k ∈ s.traffic.ledger.entered) {T : Nat} (hu : s.traffic.Underway E T)
    (hts : s.traffic.Step t.traffic)
    (hk : s.traffic.worker.isFlushing = true → t.traffic.worker = s.traffic.worker) :
    Stands policy since E t (.waiting T) := by
  have reached := traffic_of_reachable h
  have hb := Traffic.booked_of_reachable reached
  have ht := Traffic.ticketed_of_reachable reached
  rcases Traffic.underway_step hu hb ht hE hts hk with still | ⟨left, ends⟩
  · exact .underway T still
  · cases ends with
    | emptied hw ha =>
      have stops : t.traffic.worker.isStopping = true := by rw [hw]; rfl
      have idle : t.traffic.worker.inHand = [] := by rw [hw]; rfl
      have halting := Traffic.halting_step (Traffic.halting_of_reachable reached) hts
      have settled := (Traffic.booked_step hb hts).settled_of_left_idle idle left
      exact .told T _ ha (Passed.emptied (halting.worker stops) settled)
    | thrownOut hc ha =>
      have makes_room : policy = .dropOldest := by
        by_contra hp
        obtain ⟨c, hm, room⟩ := hc
        have roomless := Traffic.roomless_of_reachable hp reached
        rw [roomless.calls c hm] at room
        cases room
      exact .told T _ ha (Loose.left makes_room left)

/-- A mark under way, and the end of a flush of the worker. -/
theorem stands_of_sweep (h : Reachable (start capacity policy m l trees) s)
    (recent : since ≤ s.acts.length) {T : Nat}
    (hu : s.traffic.Underway E T) {cs : List (ι × Call)} {es : List Event} {o : Outcome}
    (hw : s.traffic.worker.isFlushing = true)
    (hc : Round.Course (Logger.flushRound s.trees) cs es o) :
    Stands policy since E (s.swept cs es o) (.waiting T) := by
  have reached := traffic_of_reachable h
  have ht := Traffic.ticketed_of_reachable reached
  have hs : Step s (s.swept cs es o) := .sweep s cs es o hw hc
  rcases Traffic.underway_sweep (t := (s.swept cs es o).traffic) hu ht o rfl rfl with
    still | ⟨left, ha⟩
  · exact .underway T still
  · have idle := Worker.inHand_of_isFlushing hw
    have settled := (Traffic.booked_of_reachable reached).settled_of_left_idle idle left
    refine .told T _ ha ?_
    cases o with
    | ok => exact Passed.fenced (fenced_of_act (recorded_of_reachable h) recent hc rfl settled)
    | failed f => exact trivial
    | crashed p => exact Loose.settled (settled_mono hs settled)

/-- **What is known stays known** while the flush itself does nothing. -/
theorem Stands.frame {f : Flusher} (hst : Stands policy since E s f)
    (h : Reachable (start capacity policy m l trees) s) (recent : since ≤ s.acts.length)
    (hE : ∀ k ∈ E, k ∈ s.traffic.ledger.entered) (hs : Step s t) : Stands policy since E t f := by
  have hs' := hs
  cases hst with
  | fresh => exact .fresh
  | marking => exact .marking
  | alone hl => exact .alone (hl.mono hs)
  | finished o hp => exact .finished o fun ho => (hp ho).mono hs
  | told T a ha hw =>
    refine .told T a ?_ (hw.mono hs)
    rcases traffic_step hs with e | hts
    · rw [e]
      exact ha
    · exact Traffic.told_step hts ha
  | underway T hu =>
    cases hs with
    | tune _ _ => exact .underway T hu
    | sweep cs es o hw hc => exact stands_of_sweep h recent hu hw hc
    | call caller p on free =>
      exact stands_of_underway h hE hu (.call _ caller p free) fun _ => rfl
    | deliver eval p isDraining thread time cs es thrown hw hc =>
      refine stands_of_underway h hE hu (.deliver _ p isDraining thrown es hw) fun hf => ?_
      rw [hw] at hf
      cases hf
    | flushAlone j cs es o hf hc =>
      exact stands_of_underway h hE hu (.flushAlone _ j o es hf) fun _ => rfl
    | aside t' ha => exact stands_of_underway h hE hu ha.step ha.flushing

/-- The flush takes a step on the queue. -/
theorem Stands.next {f next : Flusher} {q : Queue} (hst : Stands policy since E s f)
    (h : Reachable (start capacity policy m l trees) s)
    (hstep : f.step? s.traffic.queue = some (next, q)) (hs : Step s t)
    (hq : t.traffic.queue = q)
    (hl : t.traffic.ledger = s.traffic.ledger.afterMark s.traffic.queue q) :
    Stands policy since E t next := by
  have reached := traffic_of_reachable h
  cases hst with
  | fresh =>
    simp only [Flusher.step?, Bool.and_false, Bool.or_false] at hstep
    cases hr : s.traffic.queue.isRunning with
    | true =>
      simp only [hr] at hstep
      cases hstep
      exact .marking
    | false =>
      simp only [hr] at hstep
      cases hstep
      exact .alone (.stopped (stopped_step hs hr))
  | marking =>
    simp only [Flusher.step?, Option.map_eq_some_iff] at hstep
    obtain ⟨r, hr, hstep⟩ := hstep
    obtain ⟨room, rfl⟩ := Queue.offer?_eq_some hr
    cases hstep
    have hlen := (Traffic.booked_of_reachable reached).fits.length_eq
    refine .underway _ (.queued s.traffic.queue.items.length ?_ fun k _ hm => ?_)
    · rw [hq]
      exact List.getElem?_concat_length
    · rw [hl, Ledger.slots_afterMark_of_concat _ rfl, hlen, List.drop_left] at hm
      cases List.mem_singleton.mp hm
  | underway T hu =>
    have none_yet := hu.lookup (Traffic.ticketed_of_reachable reached)
    simp only [Flusher.step?, Flusher.told, none_yet] at hstep
    cases hstep
  | told T a ha hw =>
    have worth := Worth.mono hw hs
    simp only [Flusher.step?, Flusher.told, ha] at hstep
    cases a with
    | flushed answer =>
      cases answer with
      | ok _ =>
        cases hstep
        exact .finished .ok fun _ => worth
      | error f =>
        cases hstep
        exact .finished _ fun failed => by cases failed
    | released =>
      cases hstep
      exact .alone worth
  | alone _ => cases hstep
  | finished _ _ => cases hstep

/-- The flush has waited too long. -/
theorem Stands.expire {f : Flusher} (hst : Stands policy since E t f) (logger limit : String)
    (q : Queue) : Stands policy since E t (f.expire logger limit q) := by
  cases hst with
  | fresh => exact .fresh
  | marking => exact .finished _ nofun
  | underway T hu => exact .finished _ nofun
  | told T a ha hw => exact .finished _ nofun
  | alone hl => exact .alone hl
  | finished o hp => exact .finished o hp

/-- The caller has flushed the logger itself. -/
theorem Loose.flushed (hl : Loose policy E s) (h : Reachable (start capacity policy m l trees) s)
    (recent : since ≤ s.acts.length) (j : Nat) {cs : List (ι × Call)} {es : List Event}
    {o : Outcome} (hc : Round.Course (Logger.flushRound s.trees) cs es o) :
    Stands policy since E (s.sweptAlone j cs es o) (.finished o) := by
  refine .finished o ?_
  rintro rfl
  have hr := recorded_of_reachable h
  have hb := Traffic.booked_of_reachable (traffic_of_reachable h)
  cases hl with
  | stopped hstop => exact .alone hstop (fenced_of_act hr recent hc rfl fun k hk => by cases hk)
  | settled hset => exact .fenced (fenced_of_act hr recent hc rfl hset)
  | left hp left =>
    have settled := (hb.settled_of_left left).mono (Ledger.Grows.refl _)
      (Nat.add_le_add_left (Worker.length_inHand_le _) _)
    exact .late hp (fenced_of_act hr recent hc rfl settled)

theorem stands_step (h : Reachable (start capacity policy m l trees) s)
    (recent : since ≤ s.acts.length) (hE : ∀ k ∈ E, k ∈ s.traffic.ledger.entered) {j : Nat}
    {f : Flusher} (hf : s.traffic.flushers[j]? = some f) (hst : Stands policy since E s f)
    (hs : Step s t) :
    ∃ g, t.traffic.flushers[j]? = some g ∧ Stands policy since E t g := by
  have hlt := (List.getElem?_eq_some_iff.mp hf).1
  have framed := hst.frame h recent hE hs
  have hs' := hs
  cases hs with
  | tune _ _ => exact ⟨f, hf, framed⟩
  | call _ _ _ _ => exact ⟨f, hf, framed⟩
  | deliver _ _ _ _ _ _ _ _ _ _ => exact ⟨f, hf, framed⟩
  | sweep _ _ _ _ _ => exact ⟨f, hf, framed⟩
  | flushAlone i cs es o hg hc =>
    by_cases e : i = j
    · subst e
      obtain rfl : Flusher.alone = f := Option.some.inj (hg.symm.trans hf)
      cases hst with
      | alone hl => exact ⟨_, List.getElem?_set_self hlt, hl.flushed h recent i hc⟩
    · exact ⟨f, (List.getElem?_set_ne e).trans hf, framed⟩
  | aside t' ha =>
    rcases Traffic.flusher_step ha.step hf with same | ⟨next, q, hstep, rfl⟩ | ⟨rfl, ends⟩ |
      ⟨logger, limit, rfl⟩
    · exact ⟨f, same, framed⟩
    · exact ⟨next, List.getElem?_set_self hlt, hst.next h hstep hs' rfl rfl⟩
    · exact absurd (ha.alone j hf) ends
    · exact ⟨_, List.getElem?_set_self hlt, framed.expire logger limit _⟩

theorem stands_of_reachable (h : Reachable (start capacity policy m l trees) s)
    (recent : since ≤ s.acts.length) (hE : ∀ k ∈ E, k ∈ s.traffic.ledger.entered) {j : Nat}
    {f : Flusher} (hf : s.traffic.flushers[j]? = some f) (hst : Stands policy since E s f)
    (ht : Reachable s t) :
    ∃ g, t.traffic.flushers[j]? = some g ∧ Stands policy since E t g := by
  induction ht with
  | start => exact ⟨f, hf, hst⟩
  | step t u ht hs ih =>
    obtain ⟨g, hg, hstands⟩ := ih
    have grows := Traffic.ledger_of_reachable (traffic_of_reachable ht)
    have later := (acts_of_reachable ht).length_le
    exact stands_step (h.trans ht) (recent.trans later)
      (fun k hk => grows.entered.subset (hE k hk)) hg hstands hs

/-! ## 5. What follows -/

/-- **What a flush is worth that went well**, asked for on another thread than the worker's, for the
records that had entered the queue before it began.

* While the queue runs, and if it does not give up the oldest, each of them was lost, or the logger
  had been called with it, when the sinks were flushed.
* If the queue gives up the oldest the mark may have been thrown out. Then the same holds but for
  one record that the worker may have had in hand.
* If the queue is stopped, either each of them was lost or the logger had been called with it, but
  the sinks may not have been flushed since; or the sinks were flushed, and nothing is said of the
  records.

The acts tell what the logger was called with, record by record, and each took a course of its
round; what is lost was counted, and nothing that entered is lost unless the queue gives up the
oldest. -/
theorem fenced_if_flushed (h : Reachable (start capacity policy m l trees) s)
    (ht : Reachable s.flushBegun t)
    (done : t.traffic.flushers[s.traffic.flushers.length]? = some (.finished .ok)) :
    (t.Fenced s.acts.length s.traffic.ledger.entered 0 ∨
      (policy = .dropOldest ∧ t.Fenced s.acts.length s.traffic.ledger.entered 1) ∨
      (t.traffic.queue.isRunning = false ∧
        (t.traffic.ledger.Settled s.traffic.ledger.entered t.traffic.ledger.dispatched.length ∨
          t.Fenced s.acts.length [] 0))) ∧
    List.Forall₂ (fun k p => t.traffic.posts[k]? = some p)
      (t.traffic.ledger.handed.take (postsOf t.acts).length) (postsOf t.acts) ∧
    (∀ a ∈ t.acts, a.Genuine) ∧
    wrapWord t.traffic.metrics.dropped = wrapWord (m.dropped + t.traffic.ledger.lost.length) ∧
    (policy ≠ .dropOldest → ∀ k ∈ s.traffic.ledger.entered, k ∉ t.traffic.ledger.lost) := by
  have begun := h.flushBegun
  have reached := traffic_of_reachable (begun.trans ht)
  have hb := Traffic.booked_of_reachable reached
  have hr := recorded_of_reachable (begun.trans ht)
  refine ⟨?_, ?_, hr.genuine, hb.counted, fun hp k hk => ?_⟩
  · have first : s.flushBegun.traffic.flushers[s.traffic.flushers.length]? = some (.fresh false) :=
      List.getElem?_concat_length
    obtain ⟨g, hg, hstands⟩ := stands_of_reachable (E := s.traffic.ledger.entered) begun
      (Nat.le_refl s.acts.length) (fun k hk => hk) first .fresh ht
    obtain rfl : g = .finished .ok := Option.some.inj (hg.symm.trans done)
    cases hstands with
    | finished _ passed =>
      cases passed rfl with
      | fenced hf => exact .inl hf
      | late hp hf => exact .inr (.inl ⟨hp, hf⟩)
      | emptied stopped settled => exact .inr (.inr ⟨stopped, .inl settled⟩)
      | alone stopped hf => exact .inr (.inr ⟨stopped, .inr hf⟩)
  · have hin := List.forall₂_take t.traffic.ledger.dispatched.length hb.inHand
    rw [List.take_left] at hin
    rw [hr.posts]
    exact hin
  · have grows := Traffic.ledger_of_reachable (traffic_of_reachable ht)
    exact hb.not_lost (Traffic.roomless_of_reachable hp reached) (grows.entered.subset hk)

/-- A sink that is flushed, and all goes well. -/
theorem course_flush_leaf :
    Round.Course (Logger.flushRound [SinkTree.leaf "sink" 0]) [(0, .flush)] [] .ok := by
  simp only [Logger.flushRound, SinkTree.round, Round.bind]
  exact .call _ _ _ .ok _ _ _ (Round.Course.done Outcome.ok)

/-- One record is logged and queued. -/
def queued : Relay Predicate Nat :=
  ((start 8 .dropNewest {} plainLog [.leaf "sink" 0]).begin 0 ⟨.info, "one", {}⟩).produced 0
    |>.produced 0

/-- A flush puts its mark behind it. The worker delivers the record and flushes the logger for the
mark, and the flush is told. -/
def fenced : Relay Predicate Nat :=
  let marked := queued.flushBegun.furthered 0 |>.furthered 0
  let delivered := marked.worked.given ⟨.info, "one", {}⟩ [(0, .log "svc" .info "one")] [.delivered]
    none
  (delivered.worked.swept [(0, .flush)] [] .ok).furthered 0

theorem reachable_queued : Reachable (start 8 .dropNewest {} plainLog [.leaf "sink" 0]) queued := by
  have begun : Reachable (start 8 .dropNewest {} plainLog [.leaf "sink" 0])
      (start 8 .dropNewest {} plainLog [.leaf "sink" 0]) := .start
  exact begun.begin 0 ⟨.info, "one", {}⟩ rfl Traffic.isFree_start |>.produced 0 |>.produced 0

theorem reachable_fenced : Reachable queued.flushBegun fenced := by
  have begun : Reachable queued.flushBegun queued.flushBegun := .start
  have marked := begun.furthered 0 |>.furthered 0
  have course : Round.Course (plainLog.logRound [.leaf "sink" 0] Predicate.eval ⟨{}, none, ⟨0, 0⟩⟩
      ⟨.info, "one", {}⟩) [(0, .log "svc" .info "one")] [.delivered] none :=
    .call _ _ _ .ok _ _ _ (.event _ _ _ _ _ (.done none))
  have delivered := Reachable.step _ _ marked.worked
    (.deliver _ Predicate.eval ⟨.info, "one", {}⟩ false none ⟨0, 0⟩ _ _ _ rfl course)
  exact (Reachable.step _ _ delivered.worked (.sweep _ _ _ _ rfl course_flush_leaf)).furthered 0

theorem fenced_if_flushed_fenced :
    queued.traffic.ledger.entered = [0] ∧ fenced.traffic.flushers = [.finished .ok] ∧
      fenced.Fenced 0 [0] 0 := by
  obtain ⟨fate, -⟩ := fenced_if_flushed reachable_queued reachable_fenced rfl
  refine ⟨rfl, rfl, ?_⟩
  rcases fate with hf | ⟨wrong, _⟩ | ⟨wrong, _⟩
  · exact hf
  · cases wrong
  · cases wrong

/-- A logger with a predicate that throws. -/
def throwingLog : Logger Predicate Nat where
  name := "svc"
  sinks := [0]
  admission := { filters := [.predicate { question := .throws "boom" }] }

/-- The predicate throws at the first record. A second one is queued behind the worker that is gone,
and the queue is stopped. -/
def bereft : Relay Predicate Nat :=
  let first := ((start 8 .dropNewest {} throwingLog [.leaf "sink" 0]).begin 0 ⟨.info, "first", {}⟩
    ).produced 0 |>.produced 0
  let crashed := first.worked.given ⟨.info, "first", {}⟩ [] [] (some (.text "boom"))
  let late := (crashed.begin 0 ⟨.info, "late", {}⟩).produced 1 |>.produced 1
  late.closeBegun.closed 0 |>.closed 0

/-- A flush finds it so, and its caller flushes the logger itself. -/
def unheeding : Relay Predicate Nat :=
  (bereft.flushBegun.furthered 0).sweptAlone 0 [(0, .flush)] [] .ok

theorem reachable_bereft :
    Reachable (start 8 .dropNewest {} throwingLog [.leaf "sink" 0]) bereft := by
  have begun : Reachable (start 8 .dropNewest {} throwingLog [.leaf "sink" 0])
      (start 8 .dropNewest {} throwingLog [.leaf "sink" 0]) := .start
  have first := begun.begin 0 ⟨.info, "first", {}⟩ rfl Traffic.isFree_start |>.produced 0 |>.produced 0
  have crashed := Reachable.step _ _ first.worked
    (.deliver _ Predicate.eval ⟨.info, "first", {}⟩ false none ⟨0, 0⟩ [] []
      (some (.text "boom")) rfl (.done _))
  have late := crashed.begin 0 ⟨.info, "late", {}⟩ rfl (by unfold Traffic.IsFree; decide)
    |>.produced 1 |>.produced 1
  exact late.closeBegun.closed 0 |>.closed 0

theorem reachable_unheeding : Reachable bereft.flushBegun unheeding := by
  have begun : Reachable bereft.flushBegun bereft.flushBegun := .start
  exact .step _ _ (begun.furthered 0) (.flushAlone _ 0 _ _ _ rfl course_flush_leaf)

/-- **A flush that finds the queue stopped is worth nothing to a record in it**: it goes well, and
the record is neither lost nor was the logger ever called with it. -/
theorem not_fenced_if_stopped :
    ¬ ∀ (capacity : Nat) (policy : Policy) (m : Metrics) (l : Logger Predicate Nat)
      (trees : List (SinkTree Nat)) (s t : Relay Predicate Nat),
      Reachable (start capacity policy m l trees) s → Reachable s.flushBegun t →
      t.traffic.flushers[s.traffic.flushers.length]? = some (.finished .ok) →
      t.Fenced s.acts.length s.traffic.ledger.entered 0 := by
  intro h
  obtain ⟨before, trees, events, after, -, -, settled⟩ := h 8 .dropNewest {} throwingLog
    [.leaf "sink" 0] bereft unheeding reachable_bereft reachable_unheeding rfl
  have late : 1 ∈ bereft.traffic.ledger.entered := by decide
  rcases settled 1 late with lost | handed
  · exact absurd lost (by decide)
  · exact absurd (List.mem_of_mem_take handed) (by decide)

end Relay

end Logworks.Delivery
