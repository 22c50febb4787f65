import Logworks.Proofs.Delivery.Conservation

/-!
# Records behind a worker that is gone

A call looks whether the queue runs, and offers its record later. The room of the queue does not
depend on the worker, and only a shutdown stops the queue: a worker that a predicate threw out
leaves it running. So the end of the worker does not end what is put into the queue. This file says
what becomes of such records:

* `silent_once_over` -- **once the worker is gone a call ends silently exactly if it has seen the
  queue running and finds room; its record is never delivered, and counted only if it is thrown out
  for another**; once the queue is stopped as well, a call that has not looked yet is counted;
* `not_counted_once_over` -- so not each call is counted;
* `Halting` -- a worker that empties the queue has been told so by a shutdown, which stopped it.
-/

namespace Logworks.Delivery

open Fanout

/-! ## 1. The queue is stopped once -/

/-- The worker takes no command any more without emptying the queue. -/
def Worker.isStopping : Worker → Bool
  | delivering _ isDraining => isDraining
  | draining | closing | ended => true
  | idle | answering _ | crashed _ => false

/-- The queue is what it was, but for the commands in it, the tickets and the answers to them. -/
structure Queue.Steady (q r : Queue) : Prop where
  capacity : r.capacity = q.capacity
  policy : r.policy = q.policy
  isRunning : r.isRunning = q.isRunning
  hasHandle : r.hasHandle = q.hasHandle

theorem Queue.Steady.refl (q : Queue) : q.Steady q := ⟨rfl, rfl, rfl, rfl⟩

theorem Producer.steady_of_does {q r : Queue} {c next : Producer} {notes : List Note}
    (h : Does q c next r notes) : q.Steady r := by
  cases h with
  | goesOn _ p hc hn => exact .refl q
  | places p hc ha room => exact ⟨rfl, rfl, rfl, rfl⟩
  | refuses p isLoud hc why => exact .refl q
  | evicts p tries cmd rest hc hq => cases cmd <;> exact ⟨rfl, rfl, rfl, rfl⟩

theorem Producer.stop_mem_of_does {q r : Queue} {c next : Producer} {notes : List Note}
    (h : Does q c next r notes) (hs : .stop ∈ r.items) : .stop ∈ q.items := by
  cases h with
  | goesOn _ p hc hn => exact hs
  | places p hc ha room => simpa using hs
  | refuses p isLoud hc why => exact hs
  | evicts p tries cmd rest hc hq =>
    rw [Queue.items_giveUp] at hs
    rw [hq]
    exact List.mem_cons_of_mem _ hs

theorem Worker.steady_of_does {q r : Queue} {w next : Worker} {notes : List Note}
    (h : Does q w next r notes) : q.Steady r := by
  cases h <;> exact ⟨rfl, rfl, rfl, rfl⟩

theorem Worker.stop_mem_of_does {q r : Queue} {w next : Worker} {notes : List Note}
    (h : Does q w next r notes) (hs : .stop ∈ r.items) : .stop ∈ q.items := by
  cases h with
  | takes p rest notes hq _ _ => rw [hq]; exact List.mem_cons_of_mem _ hs
  | flushes ticket rest hq _ => rw [hq]; exact List.mem_cons_of_mem _ hs
  | stops rest hq _ => rw [hq]; exact List.mem_cons_of_mem _ hs
  | answers ticket rest hq _ => rw [hq]; exact List.mem_cons_of_mem _ hs
  | notices _ _ _ => exact hs
  | closes _ _ => exact hs

/-- What lets a worker go over to emptying the queue. -/
theorem Worker.isStopping_of_does {q r : Queue} {w next : Worker} {notes : List Note}
    (h : Does q w next r notes) (hn : next.isStopping = true) :
    w.isStopping = true ∨ .stop ∈ q.items ∨ q.isRunning = false := by
  cases h with
  | takes p rest notes hq _ hw =>
    rcases hw with rfl | rfl
    · cases hn
    · exact .inl rfl
  | flushes ticket rest hq _ => cases hn
  | stops rest hq _ => exact .inr (.inl (by simp [hq]))
  | answers ticket rest hq hw => exact .inl (by rw [hw]; rfl)
  | notices _ hr _ => exact .inr (.inr hr)
  | closes _ hw => exact .inl (by rw [hw]; rfl)

theorem Worker.isStopping_delivered {p : Post} {isDraining : Bool} {thrown : Option Payload}
    (h : ((delivering p isDraining).delivered thrown).isStopping = true) : isDraining = true := by
  cases thrown with
  | some e => cases h
  | none => cases isDraining with
    | false => cases h
    | true => rfl

theorem Worker.isStopping_flushed {w : Worker} {q : Queue} {o : Outcome}
    (h : (w.flushed q o).1.isStopping = true) : w.isStopping = true := by
  cases w with
  | closing => rfl
  | delivering p isDraining => cases o <;> cases h
  | idle | answering _ | draining | ended | crashed _ => cases o <;> cases h

theorem Worker.steady_flushed (w : Worker) (q : Queue) (o : Outcome) :
    q.Steady (w.flushed q o).2 := by
  cases o <;> cases w <;> exact ⟨rfl, rfl, rfl, rfl⟩

theorem Flusher.steady_of_does {q r : Queue} {f next : Flusher} (h : Does q f next r) :
    q.Steady r := by
  cases h <;> exact ⟨rfl, rfl, rfl, rfl⟩

theorem Closer.expire_ne_marking (logger limit : String) (c : Closer) :
    (c.expire logger limit).1 ≠ .marking := by
  cases c <;> simp [expire]

namespace Traffic

variable {m : Metrics} {s t : Traffic}

/-- A queue that was stopped stays so. -/
theorem isRunning_step (hs : Step s t) (h : s.queue.isRunning = false) :
    t.queue.isRunning = false := by
  cases hs with
  | produce k c next q notes hc hstep =>
    exact (Producer.steady_of_does (Producer.does_of_step? hstep)).isRunning.trans h
  | work w q notes hstep =>
    exact (Worker.steady_of_does (Worker.does_of_step? hstep)).isRunning.trans h
  | sweep o es _ => exact (Worker.steady_flushed _ _ o).isRunning.trans h
  | flushStep j f next q hf hstep =>
    exact (Flusher.steady_of_does (Flusher.does_of_step? hstep)).isRunning.trans h
  | closeStep j c next q logger last said hc hstep =>
    cases Closer.does_of_step? hstep with
    | goesOn _ _ _ _ hr => exact hr.trans h
    | stops => rfl
    | marks _ => exact h
  | call _ _ _ => exact h
  | lapse _ _ _ _ _ => exact h
  | deliver _ _ _ _ _ => exact h
  | flush _ => exact h
  | flushAlone _ _ _ _ => exact h
  | flushLapse _ _ _ _ _ => exact h
  | close _ => exact h
  | closeLapse _ _ _ _ _ => exact h

/-- **Only a shutdown ends the worker in order**: the mark that ends it, the shutdown that is
about to put it there, and a worker that has met it are found behind a queue that was stopped. -/
structure Halting (s : Traffic) : Prop where
  mark : .stop ∈ s.queue.items → s.queue.isRunning = false
  closer : .marking ∈ s.closers → s.queue.isRunning = false
  worker : s.worker.isStopping = true → s.queue.isRunning = false

theorem halting_start (capacity : Nat) (policy : Policy) (m : Metrics) :
    Halting (start capacity policy m) where
  mark h := by cases h
  closer h := by cases h
  worker h := by cases h

theorem Halting.stopped_of_work (h : Halting s) {w : Worker} {q : Queue} {notes : List Note}
    (hd : s.worker.Does s.queue w q notes) (hw : w.isStopping = true) :
    s.queue.isRunning = false := by
  rcases Worker.isStopping_of_does hd hw with ho | hm | hr
  · exact h.worker ho
  · exact h.mark hm
  · exact hr

/-- Each step keeps it. -/
theorem halting_step (h : Halting s) (hs : Step s t) : Halting t := by
  have keep := isRunning_step hs
  cases hs with
  | produce k c next q notes hc hstep =>
    have hd := Producer.does_of_step? hstep
    exact {
      mark := fun hm => keep (h.mark (Producer.stop_mem_of_does hd hm))
      closer := fun hm => keep (h.closer hm)
      worker := fun hw => keep (h.worker hw) }
  | work w q notes hstep =>
    have hd := Worker.does_of_step? hstep
    exact {
      mark := fun hm => keep (h.mark (Worker.stop_mem_of_does hd hm))
      closer := fun hm => keep (h.closer hm)
      worker := fun hw => keep (h.stopped_of_work hd hw) }
  | deliver p isDraining thrown es hw =>
    refine { mark := h.mark, closer := h.closer, worker := fun hn => h.worker ?_ }
    rw [hw] at hn ⊢
    exact Worker.isStopping_delivered hn
  | sweep o es hw =>
    exact {
      mark := fun hm => keep (h.mark (items_flushed _ _ o ▸ hm))
      closer := fun hm => keep (h.closer hm)
      worker := fun hn => keep (h.worker (Worker.isStopping_flushed hn)) }
  | flushStep j f next q hf hstep =>
    cases Flusher.does_of_step? hstep with
    | goesOn _ => exact { mark := h.mark, closer := h.closer, worker := h.worker }
    | marks _ _ =>
      refine { mark := fun hm => h.mark ?_, closer := h.closer, worker := h.worker }
      simpa using hm
  | close onWorker =>
    refine { mark := h.mark, closer := fun hm => h.closer ?_, worker := h.worker }
    simpa using hm
  | closeStep j c next q logger last said hc hstep =>
    cases Closer.does_of_step? hstep with
    | stops => exact { mark := fun _ => rfl, closer := fun _ => rfl, worker := fun _ => rfl }
    | marks hcm =>
      have hr : s.queue.isRunning = false := h.closer (hcm ▸ List.mem_of_getElem? hc)
      exact { mark := fun _ => hr, closer := fun _ => hr, worker := fun _ => hr }
    | goesOn _ _ hn hi _ =>
      refine { mark := fun hm => keep (h.mark (hi ▸ hm)), closer := fun hm => keep (h.closer ?_),
               worker := fun hw => keep (h.worker hw) }
      exact (List.mem_or_eq_of_mem_set hm).resolve_right (Ne.symm hn)
  | closeLapse j c logger limit hc =>
    refine { mark := h.mark, closer := fun hm => h.closer ?_, worker := h.worker }
    exact (List.mem_or_eq_of_mem_set hm).resolve_right
      (Ne.symm (Closer.expire_ne_marking logger limit c))
  | call _ _ _ => exact { mark := h.mark, closer := h.closer, worker := h.worker }
  | lapse _ _ _ _ _ => exact { mark := h.mark, closer := h.closer, worker := h.worker }
  | flush _ => exact { mark := h.mark, closer := h.closer, worker := h.worker }
  | flushAlone _ _ _ _ => exact { mark := h.mark, closer := h.closer, worker := h.worker }
  | flushLapse _ _ _ _ _ => exact { mark := h.mark, closer := h.closer, worker := h.worker }

theorem halting_of_reachable {capacity : Nat} {policy : Policy}
    (h : Reachable (start capacity policy m) s) : Halting s := by
  induction h with
  | start => exact halting_start capacity policy m
  | step s t _ hs ih => exact halting_step ih hs

/-! ## 2. The worker stays away -/

/-- A worker that is gone takes nothing. -/
theorem over_step (hw : s.worker.isOver = true) (hs : Step s t) :
    t.worker = s.worker ∧ t.ledger.handed = s.ledger.handed := by
  cases hs with
  | produce k c next q notes hc hstep => exact ⟨rfl, s.ledger.handed_afterCall k _ _ next⟩
  | lapse k c p hc hp => exact ⟨rfl, s.ledger.handed_afterCall k _ _ _⟩
  | work w q notes hstep =>
    cases ho : s.worker with
    | ended | crashed _ => rw [ho] at hstep; cases hstep
    | idle | delivering _ _ | answering _ | draining | closing => rw [ho] at hw; cases hw
  | deliver p isDraining thrown es hd => rw [hd] at hw; cases hw
  | sweep o es hf =>
    cases ho : s.worker with
    | answering _ | closing => rw [ho] at hw; cases hw
    | idle | delivering _ _ | draining | ended | crashed _ => rw [ho] at hf; cases hf
  | flushStep j f next q hf hstep => exact ⟨rfl, s.ledger.handed_afterMark _ _⟩
  | closeStep j c next q logger last said hc hstep => exact ⟨rfl, s.ledger.handed_afterMark _ _⟩
  | call _ _ _ => exact ⟨rfl, rfl⟩
  | flush _ => exact ⟨rfl, rfl⟩
  | flushAlone _ _ _ _ => exact ⟨rfl, rfl⟩
  | flushLapse _ _ _ _ _ => exact ⟨rfl, rfl⟩
  | close _ => exact ⟨rfl, rfl⟩
  | closeLapse _ _ _ _ _ => exact ⟨rfl, rfl⟩

theorem over_of_reachable (hw : s.worker.isOver = true) (h : Reachable s t) :
    t.worker = s.worker ∧ t.ledger.handed = s.ledger.handed := by
  induction h with
  | start => exact ⟨rfl, rfl⟩
  | step t u _ hs ih =>
    obtain ⟨ew, el⟩ := ih
    obtain ⟨ew', el'⟩ := over_step (ew ▸ hw) hs
    exact ⟨ew'.trans ew, el'.trans el⟩

theorem Reachable.trans {s₀ : Traffic} (h : Reachable s₀ s) (h' : Reachable s t) :
    Reachable s₀ t := by
  induction h' with
  | start => exact h
  | step t u _ hs ih => exact .step _ _ ih hs

/-! ## 3. Calls behind it -/

/-- **How a step ends a call**: its record is put into the queue and nothing is counted, or the
queue is left alone and the record is counted. -/
theorem ledger_of_end {k : Nat} {c : LogCall} {q : Queue} {notes : List Note}
    (h : c.progress.step? s.queue = some (.finished, q, notes)) :
    (c.progress.wasAdmitted = true ∧ s.queue.hasRoom = true ∧
      (s.advance k c .finished q notes).ledger = s.ledger.enter k ∧
      (s.advance k c .finished q notes).metrics.dropped = s.metrics.dropped) ∨
    (¬ (c.progress.wasAdmitted = true ∧ s.queue.hasRoom = true) ∧
      (s.advance k c .finished q notes).ledger = s.ledger.refuse k ∧
      (s.advance k c .finished q notes).metrics.dropped = wrapWord (s.metrics.dropped + 1)) := by
  cases Producer.does_of_step? h with
  | goesOn _ p _ hn => cases hn
  | places p hp ha room =>
    exact .inl ⟨ha, room, s.ledger.afterCall_of_longer k _ (by simp), rfl⟩
  | refuses p isLoud hp why =>
    refine .inr ⟨?_, s.ledger.afterCall_of_refused k s.queue, rfl⟩
    rintro ⟨ha, room⟩
    rcases why with ⟨hf, _⟩ | full
    · rw [hf] at ha
      cases ha
    · rw [full] at room
      cases room

/-- A call that is under way has its record in no place yet. -/
theorem Booked.not_queued (h : Booked m s) {k : Nat} {c : LogCall} (hc : s.calls[k]? = some c)
    (ho : c.progress ≠ .finished) : k ∉ s.ledger.queued := by
  have hk := h.places_of_call hc
  rw [if_neg ho, Ledger.places] at hk
  exact List.count_eq_zero.mp (by omega)

/-- A record is in the queue if it is neither with the worker nor lost. -/
theorem Booked.queued_iff (h : Booked m s) {k : Nat} {c : LogCall} (hc : s.calls[k]? = some c)
    (he : c.progress = .finished) :
    k ∈ s.ledger.queued ↔ k ∉ s.ledger.handed ∧ k ∉ s.ledger.lost := by
  have hk := h.places_of_call hc
  rw [if_pos he, Ledger.places] at hk
  rw [← List.count_pos_iff, ← List.count_eq_zero, ← List.count_eq_zero]
  omega

/-- Call `k` has not seen the queue running, and will not. -/
structure Barred (k : Nat) (s : Traffic) : Prop where
  stopped : s.queue.isRunning = false
  fresh : ∀ c, s.calls[k]? = some c → c.progress.wasAdmitted = false
  out : k ∉ s.ledger.entered

theorem Barred.frame {k : Nat} (h : Barred k s) (hs : Step s t) (hc : t.calls = s.calls)
    (hl : t.ledger.entered = s.ledger.entered) : Barred k t where
  stopped := isRunning_step hs h.stopped
  fresh := by rw [hc]; exact h.fresh
  out := by rw [hl]; exact h.out

/-- A step of any call: one that is barred is refused, and stays out. -/
theorem Barred.advance {k : Nat} (h : Barred k s) {j : Nat} {c : LogCall}
    (hc : s.calls[j]? = some c) {next : Producer} {q : Queue} {notes : List Note}
    (hd : c.progress.Does s.queue next q notes)
    (hstep : c.progress.step? s.queue = some (next, q, notes)) :
    Barred k (s.advance j c next q notes) where
  stopped := isRunning_step (.produce s j c next q notes hc hstep) h.stopped
  fresh d hd' := by
    by_cases e : k = j
    · subst e
      have hlt := (List.getElem?_eq_some_iff.mp hc).1
      rw [Traffic.advance, List.getElem?_set_self hlt] at hd'
      cases hd'
      have hf := h.fresh c hc
      cases hp : c.progress with
      | fresh p =>
        rw [hp] at hstep
        simp only [Producer.step?, h.stopped, Bool.false_eq_true, if_false] at hstep
        cases hstep
        rfl
      | finished => rw [hp] at hstep; cases hstep
      | admitted _ | evicting _ _ | retrying _ _ | waiting _ _ => rw [hp] at hf; cases hf
    · rw [Traffic.advance, List.getElem?_set_ne (Ne.symm e)] at hd'
      exact h.fresh d hd'
  out := by
    show k ∉ (s.ledger.afterCall j s.queue q next).entered
    cases hd with
    | goesOn _ p _ hn =>
      rw [s.ledger.afterCall_of_goesOn j s.queue (Producer.ne_finished_of_post? hn)]
      exact h.out
    | places p hp ha room =>
      rw [s.ledger.afterCall_of_longer j _ (by simp)]
      refine fun hk => (List.mem_append.mp hk).elim h.out fun hk => ?_
      rw [List.mem_singleton] at hk
      subst hk
      rw [h.fresh c hc] at ha
      cases ha
    | refuses p isLoud hp why =>
      rw [s.ledger.afterCall_of_refused]
      exact h.out
    | evicts p tries cmd rest hp hq =>
      rw [s.ledger.afterCall_of_shorter j _ (by simp [hq])]
      exact h.out

theorem barred_step {k : Nat} (h : Barred k s) (hs : Step s t) : Barred k t := by
  have hs' := hs
  cases hs with
  | call caller p free =>
    refine { stopped := h.stopped, fresh := fun c hc => ?_, out := h.out }
    rcases concat_eq_some hc with hc | ⟨_, rfl⟩
    · exact h.fresh c hc
    · rfl
  | produce j c next q notes hc hstep => exact h.advance hc (Producer.does_of_step? hstep) hstep
  | lapse j c p hc hp =>
    have ej : k ≠ j := by
      rintro rfl
      have hf := h.fresh c hc
      rw [hp] at hf
      cases hf
    refine { stopped := h.stopped, fresh := fun d hd => h.fresh d ?_, out := ?_ }
    · rwa [Traffic.advance, List.getElem?_set_ne (Ne.symm ej)] at hd
    · show k ∉ (s.ledger.afterCall j s.queue s.queue c.progress.expire.1).entered
      rw [hp]
      exact (s.ledger.afterCall_of_refused j s.queue).symm ▸ h.out
  | work w q notes hstep => exact h.frame hs' rfl (Ledger.entered_afterWork _ _ _)
  | flushStep j f next q hf hstep => exact h.frame hs' rfl (Ledger.entered_afterMark _ _ _)
  | closeStep j c next q logger last said hc hstep =>
    exact h.frame hs' rfl (Ledger.entered_afterMark _ _ _)
  | deliver _ _ _ _ _ => exact h.frame hs' rfl rfl
  | sweep _ _ _ => exact h.frame hs' rfl rfl
  | flush _ => exact h.frame hs' rfl rfl
  | flushAlone _ _ _ _ => exact h.frame hs' rfl rfl
  | flushLapse _ _ _ _ _ => exact h.frame hs' rfl rfl
  | close _ => exact h.frame hs' rfl rfl
  | closeLapse _ _ _ _ _ => exact h.frame hs' rfl rfl

theorem barred_of_reachable {k : Nat} (h : Barred k s) (hr : Reachable s t) : Barred k t := by
  induction hr with
  | start => exact h
  | step t u _ hs ih => exact barred_step ih hs

/-- What was kept out of the queue is counted once its call has ended. -/
theorem Barred.lost {k : Nat} (h : Barred k s) (hb : Booked m s) {c : LogCall}
    (hc : s.calls[k]? = some c) (he : c.progress = .finished) : k ∈ s.ledger.lost := by
  have hk := hb.places_of_call hc
  have hout : k ∉ s.ledger.course := fun hm => h.out (hb.kept.subset hm)
  rw [Ledger.course, List.mem_append, not_or] at hout
  rw [if_pos he, Ledger.places, List.count_eq_zero.mpr hout.1, List.count_eq_zero.mpr hout.2] at hk
  exact List.count_pos_iff.mp (by omega)

/-- **Once the worker is gone**, whatever ended it:

* a step that ends a call leaves its record in the queue, and counts nothing, exactly if the call
  has seen the queue running and finds room; else the record is counted;
* whatever happens later, the worker stays away and is given nothing more; so a record is neither
  delivered nor counted exactly if it is in the queue;
* a worker that ended in order left a stopped queue behind;
* behind a stopped queue a call that has not looked yet, or begins later, is counted. -/
theorem silent_once_over {capacity : Nat} {policy : Policy}
    (h : Reachable (start capacity policy m) s) (hw : s.worker.isOver = true) :
    (∀ (k : Nat) (c : LogCall) (q : Queue) (notes : List Note), s.calls[k]? = some c →
      c.progress.step? s.queue = some (.finished, q, notes) →
      (k ∈ (s.advance k c .finished q notes).ledger.queued ↔
        c.progress.wasAdmitted = true ∧ s.queue.hasRoom = true) ∧
      (s.advance k c .finished q notes).metrics.dropped =
        if c.progress.wasAdmitted = true ∧ s.queue.hasRoom = true then s.metrics.dropped
        else wrapWord (s.metrics.dropped + 1)) ∧
    (∀ t, Reachable s t → t.worker = s.worker ∧ t.ledger.handed = s.ledger.handed ∧
      ∀ (k : Nat) (c : LogCall), t.calls[k]? = some c → c.progress = .finished →
        (k ∈ t.ledger.queued ↔ k ∉ t.ledger.handed ∧ k ∉ t.ledger.lost)) ∧
    (s.worker = .ended → s.queue.isRunning = false) ∧
    (s.queue.isRunning = false → ∀ t, Reachable s t → ∀ (k : Nat) (c : LogCall),
      (∀ d, s.calls[k]? = some d → ∃ p, d.progress = .fresh p) → t.calls[k]? = some c →
      c.progress = .finished → k ∈ t.ledger.lost ∧ k ∉ t.ledger.queued) := by
  have hb := booked_of_reachable h
  refine ⟨?_, ?_, ?_, ?_⟩
  · intro k c q notes hc hstep
    rcases ledger_of_end hstep with ⟨ha, room, hl, hd⟩ | ⟨hno, hl, hd⟩
    · rw [hl, hd, if_pos ⟨ha, room⟩, Ledger.queued_enter]
      exact ⟨⟨fun _ => ⟨ha, room⟩, fun _ => by simp⟩, rfl⟩
    · have ho : c.progress ≠ .finished := by
        intro e
        rw [e] at hstep
        cases hstep
      rw [hl, hd, if_neg hno]
      exact ⟨⟨fun hk => absurd hk (hb.not_queued hc ho), fun hy => absurd hy hno⟩, rfl⟩
  · intro t ht
    obtain ⟨ew, el⟩ := over_of_reachable hw ht
    exact ⟨ew, el, fun k c hc he => (booked_of_reachable (h.trans ht)).queued_iff hc he⟩
  · intro he
    exact (halting_of_reachable h).worker (by rw [he]; rfl)
  · intro hr t ht k c hk hc he
    have hbar : Barred k s := {
      stopped := hr
      fresh := fun d hd => by
        obtain ⟨p, hp⟩ := hk d hd
        rw [hp]
        rfl
      out := fun hm => by
        have hlt := (hb.ended k hm).1
        obtain ⟨p, hp⟩ := hk _ (List.getElem?_eq_getElem hlt)
        exact hb.not_entered (List.getElem?_eq_getElem hlt) (by rw [hp]; simp) hm }
    have hbt := booked_of_reachable (h.trans ht)
    have hlost := (barred_of_reachable hbar ht).lost hbt hc he
    exact ⟨hlost, fun hq => ((hbt.queued_iff hc he).mp hq).2 hlost⟩

/-- A call has looked, then the queue is shut down, and the worker empties it and ends. -/
def overtaken : Traffic :=
  let looked := ((start 8 .dropNewest {}).begin 0 ⟨.info, "late", {}⟩).produced 0
  let closing := { looked with closers := [.fresh false] }
  let emptied := (closing.closed 0 |>.closed 0 |>.closed 0).worked.worked
  { emptied with worker := .ended }

theorem reachable_overtaken : Reachable (start 8 .dropNewest {}) overtaken :=
  have looked := (Reachable.step _ _ .start
    (.call _ 0 ⟨.info, "late", {}⟩ fun _ h => by cases h)).produced 0
  have closing := Reachable.step _ _ looked (.close _ false)
  have emptied := (closing.closed 0 |>.closed 0 |>.closed 0).worked.worked
  .step _ _ emptied (.sweep _ .ok [] rfl)

theorem silent_once_over_overtaken :
    overtaken.worker = .ended ∧ overtaken.queue.isRunning = false ∧
      ∃ c q notes, overtaken.calls[0]? = some c ∧
        c.progress.step? overtaken.queue = some (.finished, q, notes) ∧
        0 ∈ (overtaken.advance 0 c .finished q notes).ledger.queued ∧
        (overtaken.advance 0 c .finished q notes).metrics.dropped = 0 := by
  obtain ⟨ends, -, stopped, -⟩ := silent_once_over reachable_overtaken rfl
  refine ⟨rfl, stopped rfl, ⟨0, ⟨.info, "late", {}⟩, .admitted ⟨.info, "late", {}⟩⟩, _, _, rfl, rfl,
    ?_⟩
  obtain ⟨left, counted⟩ := ends 0 _ _ _ rfl rfl
  exact ⟨left.mpr ⟨rfl, rfl⟩, counted⟩

/-- A predicate threw at the first record, and a second call has seen the queue running. -/
def abandoned : Traffic :=
  let taken := (((start 8 .dropNewest {}).begin 0 ⟨.info, "first", {}⟩).produced 0
    |>.produced 0).worked
  let crashed := { taken with
    worker := .crashed (.text "boom"), ledger := taken.ledger.dispatch ⟨.info, "first", {}⟩ }
  (crashed.begin 1 ⟨.info, "late", {}⟩).produced 1

theorem reachable_abandoned : Reachable (start 8 .dropNewest {}) abandoned :=
  have taken := ((Reachable.step _ _ .start
    (.call _ 0 ⟨.info, "first", {}⟩ fun _ h => by cases h)).produced 0 |>.produced 0).worked
  have crashed := Reachable.step _ _ taken
    (.deliver _ ⟨.info, "first", {}⟩ false (some (.text "boom")) [] rfl)
  (Reachable.step _ _ crashed (.call _ 1 ⟨.info, "late", {}⟩ (by decide))).produced 1

/-- **Not each call is counted** that ends once the worker is gone. -/
theorem not_counted_once_over :
    ¬ ∀ (capacity : Nat) (policy : Policy) (m : Metrics) (s : Traffic) (k : Nat) (c : LogCall)
      (q : Queue) (notes : List Note), Reachable (start capacity policy m) s →
      s.worker.isOver = true → s.calls[k]? = some c →
      c.progress.step? s.queue = some (.finished, q, notes) →
      (s.advance k c .finished q notes).metrics.dropped = wrapWord (s.metrics.dropped + 1) := by
  intro h
  have counted := h 8 .dropNewest {} abandoned 1
    ⟨1, ⟨.info, "late", {}⟩, .admitted ⟨.info, "late", {}⟩⟩ _ _ reachable_abandoned rfl rfl rfl
  exact absurd counted (by decide)

end Traffic

end Logworks.Delivery
