import Logworks.Proofs.Delivery.Stranded
import Mathlib.Data.List.Perm.Basic

/-!
# Emptying the queue

A shutdown stops the queue, and puts a mark into it that sends the worker to empty it. The mark may
be thrown out, may find no room, may be overtaken by records; then the worker goes over when it
finds nothing to wait for. Either way it ends only where it has found the queue empty. This file
fixes

* `Ledger.Grows` -- the ledger grows at its ends only, step by step (`ledger_step`);
* `Left` -- a record is out of the queue for good: the worker has it, or it is lost;
* `Drained` -- **a worker that has found the queue empty has left none of some records there**;
* `Roomless` -- a queue that never gives up the oldest loses nothing that entered it;
* `drained_once_ended` -- the main fact.

NOT here: a queue whose last holder is the worker itself. It is let go while it runs, and its
worker ends without a shutdown.
-/

namespace Logworks.Delivery

open Fanout

/-! ## 1. The ledger grows -/

namespace Ledger

/-- Nothing is taken back that was written down. -/
structure Grows (l l' : Ledger) : Prop where
  entered : l.entered <+: l'.entered
  handed : l.handed <+: l'.handed
  lost : l.lost <+: l'.lost
  dispatched : l.dispatched <+: l'.dispatched

theorem Grows.refl (l : Ledger) : l.Grows l :=
  ⟨List.prefix_rfl, List.prefix_rfl, List.prefix_rfl, List.prefix_rfl⟩

theorem Grows.trans {l l' l'' : Ledger} (h : l.Grows l') (h' : l'.Grows l'') : l.Grows l'' where
  entered := h.entered.trans h'.entered
  handed := h.handed.trans h'.handed
  lost := h.lost.trans h'.lost
  dispatched := h.dispatched.trans h'.dispatched

theorem grows_dispatch (l : Ledger) (p : Post) : l.Grows (l.dispatch p) :=
  { Grows.refl l with dispatched := List.prefix_append _ _ }

theorem grows_afterCall (l : Ledger) (k : Nat) (q r : Queue) (next : Producer) :
    l.Grows (l.afterCall k q r next) := by
  unfold afterCall
  split
  · exact { Grows.refl l with entered := List.prefix_append _ _ }
  · split
    · exact { Grows.refl l with lost := List.prefix_append _ _ }
    · split
      · exact { Grows.refl l with lost := List.prefix_append _ _ }
      · exact Grows.refl l

theorem grows_afterWork (l : Ledger) (q r : Queue) : l.Grows (l.afterWork q r) := by
  unfold afterWork
  split
  · exact { Grows.refl l with handed := List.prefix_append _ _ }
  · exact Grows.refl l

theorem grows_afterMark (l : Ledger) (q r : Queue) : l.Grows (l.afterMark q r) := by
  unfold afterMark
  split <;> exact ⟨List.prefix_rfl, List.prefix_rfl, List.prefix_rfl, List.prefix_rfl⟩

theorem course_afterMark (l : Ledger) (q r : Queue) : (l.afterMark q r).course = l.course := by
  unfold afterMark
  split
  · exact l.course_enterMark
  · rfl

theorem course_afterWork (l : Ledger) (q r : Queue) : (l.afterWork q r).course = l.course := by
  unfold afterWork
  split
  · exact l.course_hand
  · rfl

end Ledger

namespace Traffic

variable {m : Metrics} {s t : Traffic}

/-- **No step takes anything back.** -/
theorem ledger_step (hs : Step s t) : s.ledger.Grows t.ledger := by
  cases hs with
  | produce k c next q notes _ _ => exact s.ledger.grows_afterCall k _ _ next
  | lapse k c p _ _ => exact s.ledger.grows_afterCall k _ _ _
  | work w q notes _ => exact s.ledger.grows_afterWork _ _
  | deliver p isDraining thrown es _ => exact s.ledger.grows_dispatch p
  | flushStep j f next q _ _ => exact s.ledger.grows_afterMark _ _
  | closeStep j c next q logger last said _ _ => exact s.ledger.grows_afterMark _ _
  | call _ _ _ => exact Ledger.Grows.refl _
  | sweep _ _ _ => exact Ledger.Grows.refl _
  | flush _ => exact Ledger.Grows.refl _
  | flushAlone _ _ _ _ => exact Ledger.Grows.refl _
  | flushLapse _ _ _ _ _ => exact Ledger.Grows.refl _
  | close _ => exact Ledger.Grows.refl _
  | closeLapse _ _ _ _ _ => exact Ledger.Grows.refl _

theorem ledger_of_reachable (h : Reachable s t) : s.ledger.Grows t.ledger := by
  induction h with
  | start => exact Ledger.Grows.refl _
  | step t u _ hs ih => exact ih.trans (ledger_step hs)

/-- The record is out of the queue for good: the worker has it, or it is lost. -/
def Left (s : Traffic) (k : Nat) : Prop := k ∈ s.ledger.handed ∨ k ∈ s.ledger.lost

theorem Left.mono {k : Nat} (h : s.Left k) (hg : s.ledger.Grows t.ledger) : t.Left k :=
  h.imp (fun hm => hg.handed.subset hm) fun hm => hg.lost.subset hm

/-- A record that entered the queue is in it, or is out for good; it is in one place only. -/
theorem Booked.places_of_entered (h : Booked m s) {k : Nat} (hk : k ∈ s.ledger.entered) :
    s.ledger.queued.count k + s.ledger.handed.count k + s.ledger.lost.count k = 1 := by
  obtain ⟨hlt, ho⟩ := h.ended k hk
  have hone := h.once k
  rw [ho, if_pos hlt, Nat.zero_add] at hone
  exact hone

theorem Booked.left_of_not_queued (h : Booked m s) {k : Nat} (hk : k ∈ s.ledger.entered)
    (hq : k ∉ s.ledger.queued) : s.Left k := by
  have hone := h.places_of_entered hk
  rw [List.count_eq_zero.mpr hq] at hone
  by_cases hh : k ∈ s.ledger.handed
  · exact .inl hh
  · rw [List.count_eq_zero.mpr hh] at hone
    exact .inr (List.count_pos_iff.mp (by omega))

/-- An empty queue holds no records. -/
theorem Booked.slots_of_empty (h : Booked m s) (empty : s.queue.items = []) :
    s.ledger.slots = [] := by
  have hfits := h.fits
  rw [empty] at hfits
  exact List.forall₂_nil_left_iff.mp hfits

theorem Booked.left_of_empty (h : Booked m s) (empty : s.queue.items = []) {k : Nat}
    (hk : k ∈ s.ledger.entered) : s.Left k := by
  refine h.left_of_not_queued hk ?_
  rw [Ledger.queued, h.slots_of_empty empty]
  exact List.not_mem_nil

/-! ## 2. The worker finds the queue empty -/

end Traffic

/-- The worker has found the queue empty, and takes nothing more. -/
def Worker.isClosing : Worker → Bool
  | closing | ended => true
  | idle | delivering _ _ | answering _ | draining | crashed _ => false

/-- A step that leads there finds the queue empty. -/
theorem Worker.empty_of_does {q r : Queue} {w next : Worker} {notes : List Note}
    (h : Does q w next r notes) (hn : next.isClosing = true) : q.items = [] := by
  cases h with
  | closes hq _ => exact hq
  | takes _ _ _ _ _ _ => cases hn
  | flushes _ _ _ _ => cases hn
  | stops _ _ _ => cases hn
  | answers _ _ _ _ => cases hn
  | notices _ _ _ => cases hn

theorem Worker.isClosing_delivered (p : Post) (isDraining : Bool) (thrown : Option Payload) :
    ((delivering p isDraining).delivered thrown).isClosing = false := by
  cases thrown with
  | some e => rfl
  | none => cases isDraining <;> rfl

theorem Worker.isClosing_flushed {w : Worker} {q : Queue} {o : Outcome}
    (h : (w.flushed q o).1.isClosing = true) : w.isClosing = true := by
  cases w with
  | closing | ended => rfl
  | idle | delivering _ _ | answering _ | draining | crashed _ => cases o <;> cases h

namespace Traffic

variable {m : Metrics} {s t : Traffic}

/-- **A worker that has found the queue empty has left none of the records `E` there.** -/
structure Drained (E : List Nat) (s : Traffic) : Prop where
  entered : ∀ k ∈ E, k ∈ s.ledger.entered
  left : s.worker.isClosing = true → ∀ k ∈ E, s.Left k

/-- A worker that was not told to stop has not found the queue empty. -/
theorem drained_of_running (h : Halting s) (running : s.queue.isRunning = true) :
    Drained s.ledger.entered s where
  entered k hk := hk
  left hw := by
    have hstop : s.worker.isStopping = true := by
      cases hc : s.worker with
      | closing | ended => rfl
      | idle | delivering _ _ | answering _ | draining | crashed _ => rw [hc] at hw; cases hw
    rw [h.worker hstop] at running
    cases running

theorem drained_step {E : List Nat} (hb : Booked m s) (h : Drained E s) (hs : Step s t) :
    Drained E t := by
  have grows := ledger_step hs
  have frame : t.worker = s.worker → t.worker.isClosing = true → ∀ k ∈ E, t.Left k := by
    intro ew hw k hk
    rw [ew] at hw
    exact (h.left hw k hk).mono grows
  refine { entered := fun k hk => grows.entered.subset (h.entered k hk), left := ?_ }
  cases hs with
  | work w q notes hstep =>
    intro hw k hk
    have empty := Worker.empty_of_does (Worker.does_of_step? hstep) hw
    exact (hb.left_of_empty empty (h.entered k hk)).mono grows
  | deliver p isDraining thrown es hd =>
    intro hw
    have hno := Worker.isClosing_delivered p isDraining thrown
    rw [← hd] at hno
    rw [show (s.worker.delivered thrown).isClosing = true from hw] at hno
    cases hno
  | sweep o es _ =>
    intro hw k hk
    exact (h.left (Worker.isClosing_flushed hw) k hk).mono grows
  | call _ _ _ => exact frame rfl
  | produce _ _ _ _ _ _ _ => exact frame rfl
  | lapse _ _ _ _ _ => exact frame rfl
  | flush _ => exact frame rfl
  | flushStep _ _ _ _ _ _ => exact frame rfl
  | flushAlone _ _ _ _ => exact frame rfl
  | flushLapse _ _ _ _ _ => exact frame rfl
  | close _ => exact frame rfl
  | closeStep _ _ _ _ _ _ _ _ _ => exact frame rfl
  | closeLapse _ _ _ _ _ => exact frame rfl

theorem drained_of_reachable {E : List Nat} (hb : Booked m s) (h : Drained E s)
    (ht : Reachable s t) : Booked m t ∧ Drained E t := by
  induction ht with
  | start => exact ⟨hb, h⟩
  | step t u _ hs ih =>
    obtain ⟨hbt, hdt⟩ := ih
    exact ⟨booked_step hbt hs, drained_step hbt hdt hs⟩

end Traffic

/-! ## 3. Queues that never give up the oldest -/

/-- The call throws out the oldest to make room. -/
def Producer.isMakingRoom : Producer → Bool
  | evicting _ _ | retrying _ _ => true
  | fresh _ | admitted _ | waiting _ _ | finished => false

/-- Only a queue of that kind sends a call to make room. -/
theorem Producer.isMakingRoom_of_step? {q r : Queue} {c next : Producer} {notes : List Note}
    (h : c.step? q = some (next, r, notes)) (hq : q.policy ≠ .dropOldest)
    (hc : c.isMakingRoom = false) : next.isMakingRoom = false := by
  cases c with
  | fresh p =>
    simp only [step?] at h
    split at h <;> cases h <;> rfl
  | admitted p =>
    simp only [step?] at h
    split at h
    · cases h
      rfl
    · cases hp : q.policy <;> simp only [hp, overflow] at h
      case dropOldest => exact absurd hp hq
      all_goals cases h; rfl
  | waiting p isLimited =>
    simp only [step?, Option.map_eq_some_iff] at h
    obtain ⟨_, _, h⟩ := h
    cases h
    rfl
  | evicting _ _ | retrying _ _ => cases hc
  | finished => cases h

theorem Closer.policy_of_step? {logger : String} {last said : List Notice} {w : Worker}
    {q r : Queue} {c next : Closer} (h : c.step? logger last w q = some (next, r, said)) :
    r.policy = q.policy := by
  cases turn_of_step? h <;> rfl

namespace Traffic

variable {m : Metrics} {s t : Traffic}

theorem policy_step (hs : Step s t) : t.queue.policy = s.queue.policy := by
  cases hs with
  | produce k c next q notes hc hstep =>
    exact (Producer.steady_of_does (Producer.does_of_step? hstep)).policy
  | work w q notes hstep => exact (Worker.steady_of_does (Worker.does_of_step? hstep)).policy
  | sweep o es _ => exact (Worker.steady_flushed _ _ o).policy
  | flushStep j f next q hf hstep =>
    exact (Flusher.steady_of_does (Flusher.does_of_step? hstep)).policy
  | closeStep j c next q logger last said hc hstep => exact Closer.policy_of_step? hstep
  | call _ _ _ => rfl
  | lapse _ _ _ _ _ => rfl
  | deliver _ _ _ _ _ => rfl
  | flush _ => rfl
  | flushAlone _ _ _ _ => rfl
  | flushLapse _ _ _ _ _ => rfl
  | close _ => rfl
  | closeLapse _ _ _ _ _ => rfl

/-- **No call makes room in the queue**, and nothing that entered it is lost. -/
structure Roomless (s : Traffic) : Prop where
  policy : s.queue.policy ≠ .dropOldest
  calls : ∀ c ∈ s.calls, c.progress.isMakingRoom = false
  whole : s.ledger.course = s.ledger.entered

theorem roomless_start {capacity : Nat} {policy : Policy} (hp : policy ≠ .dropOldest)
    (m : Metrics) : Roomless (start capacity policy m) where
  policy := hp
  calls c h := by cases h
  whole := rfl

theorem Roomless.frame (h : Roomless s) (hs : Step s t) (hc : t.calls = s.calls)
    (hl : t.ledger.course = s.ledger.course) (he : t.ledger.entered = s.ledger.entered) :
    Roomless t where
  policy := by rw [policy_step hs]; exact h.policy
  calls := by rw [hc]; exact h.calls
  whole := by rw [hl, he]; exact h.whole

theorem Roomless.advance (h : Roomless s) {k : Nat} {c : LogCall} (hc : s.calls[k]? = some c)
    {next : Producer} {q : Queue} {notes : List Note}
    (hstep : c.progress.step? s.queue = some (next, q, notes)) :
    Roomless (s.advance k c next q notes) := by
  have hopen := h.calls c (List.mem_of_getElem? hc)
  have hnext := Producer.isMakingRoom_of_step? hstep h.policy hopen
  have hd := Producer.does_of_step? hstep
  refine { policy := ?_, calls := fun d hd => ?_, whole := ?_ }
  · rw [policy_step (.produce s k c next q notes hc hstep)]
    exact h.policy
  · rcases List.mem_or_eq_of_mem_set hd with hd | rfl
    · exact h.calls d hd
    · exact hnext
  · show (s.ledger.afterCall k s.queue q next).course =
      (s.ledger.afterCall k s.queue q next).entered
    cases hd with
    | goesOn _ p _ hn =>
      rw [s.ledger.afterCall_of_goesOn k s.queue (Producer.ne_finished_of_post? hn)]
      exact h.whole
    | places p _ _ _ =>
      rw [s.ledger.afterCall_of_longer k _ (by simp), Ledger.course_enter, h.whole]
      rfl
    | refuses p isLoud _ _ =>
      rw [s.ledger.afterCall_of_refused]
      exact h.whole
    | evicts p tries cmd rest hp hq =>
      rw [hp] at hopen
      cases hopen

theorem roomless_step (h : Roomless s) (hs : Step s t) : Roomless t := by
  have hs' := hs
  cases hs with
  | call caller p free =>
    refine { policy := h.policy, calls := fun c hc => ?_, whole := h.whole }
    rcases List.mem_append.mp hc with hc | hc
    · exact h.calls c hc
    · rw [List.mem_singleton.mp hc]
      rfl
  | produce k c next q notes hc hstep => exact h.advance hc hstep
  | lapse k c p hc hp =>
    rw [hp]
    refine { policy := h.policy, calls := fun d hd => ?_, whole := ?_ }
    · rcases List.mem_or_eq_of_mem_set hd with hd | rfl
      · exact h.calls d hd
      · rfl
    · show (s.ledger.afterCall k s.queue s.queue .finished).course =
        (s.ledger.afterCall k s.queue s.queue .finished).entered
      rw [s.ledger.afterCall_of_refused]
      exact h.whole
  | work w q notes hstep =>
    exact h.frame hs' rfl (s.ledger.course_afterWork _ _) (Ledger.entered_afterWork _ _ _)
  | flushStep j f next q hf hstep =>
    exact h.frame hs' rfl (s.ledger.course_afterMark _ _) (Ledger.entered_afterMark _ _ _)
  | closeStep j c next q logger last said hc hstep =>
    exact h.frame hs' rfl (s.ledger.course_afterMark _ _) (Ledger.entered_afterMark _ _ _)
  | deliver _ _ _ _ _ => exact h.frame hs' rfl rfl rfl
  | sweep _ _ _ => exact h.frame hs' rfl rfl rfl
  | flush _ => exact h.frame hs' rfl rfl rfl
  | flushAlone _ _ _ _ => exact h.frame hs' rfl rfl rfl
  | flushLapse _ _ _ _ _ => exact h.frame hs' rfl rfl rfl
  | close _ => exact h.frame hs' rfl rfl rfl
  | closeLapse _ _ _ _ _ => exact h.frame hs' rfl rfl rfl

theorem roomless_of_reachable {capacity : Nat} {policy : Policy} (hp : policy ≠ .dropOldest)
    (h : Reachable (start capacity policy m) s) : Roomless s := by
  induction h with
  | start => exact roomless_start hp m
  | step s t _ hs ih => exact roomless_step ih hs

end Traffic

/-! ## 4. The queue is stopped by a shutdown -/

/-- The shutdown has stopped the queue, or found that it had no need to. -/
def Closer.hasStopped : Closer → Bool
  | marking | joining | parting _ | finished _ => true
  | fresh _ | stopping => false

theorem Closer.hasStopped_of_step? {logger : String} {last said : List Notice} {w : Worker}
    {q r : Queue} {c next : Closer} (h : c.step? logger last w q = some (next, r, said)) :
    (c.hasStopped = true → next.hasStopped = true) ∧
      (r.isRunning = q.isRunning ∨ next.hasStopped = true) := by
  cases turn_of_step? h with
  | dismissed _ _ | refused _ | takes _ => exact ⟨nofun, .inl rfl⟩
  | stops => exact ⟨nofun, .inr rfl⟩
  | marks _ | joins _ | mourns _ _ | parts _ => exact ⟨fun _ => rfl, .inr rfl⟩

theorem Closer.hasStopped_expire (logger limit : String) (c : Closer) :
    (c.expire logger limit).1.hasStopped = c.hasStopped := by
  cases c <;> rfl

/-- What one of them has, one of them has still, if the one that changes keeps it. -/
theorem exists_mem_set {α : Type} {l : List α} {P : α → Prop} {j : Nat} {a b : α}
    (ha : l[j]? = some a) (keeps : P a → P b) (h : ∃ d ∈ l, P d) : ∃ d ∈ l.set j b, P d := by
  obtain ⟨d, hd, hp⟩ := h
  obtain ⟨i, hi⟩ := List.mem_iff_getElem?.mp hd
  by_cases e : i = j
  · subst e
    rw [ha] at hi
    cases hi
    have hlt := (List.getElem?_eq_some_iff.mp ha).1
    exact ⟨b, List.mem_of_getElem? (List.getElem?_set_self hlt), keeps hp⟩
  · refine ⟨d, List.mem_of_getElem? (i := i) ?_, hp⟩
    rwa [List.getElem?_set_ne (Ne.symm e)]

namespace Traffic

variable {m : Metrics} {s t : Traffic}

/-- A queue that is stopped was stopped by a shutdown. -/
def Dismissed (s : Traffic) : Prop :=
  s.queue.isRunning = false → ∃ c ∈ s.closers, c.hasStopped = true

theorem dismissed_step (h : Dismissed s) (hs : Step s t) : Dismissed t := by
  have frame : t.queue.isRunning = s.queue.isRunning → t.closers = s.closers → Dismissed t := by
    intro hr hc hstop
    rw [hc]
    exact h (hr ▸ hstop)
  cases hs with
  | produce k c next q notes hc hstep =>
    exact frame (Producer.steady_of_does (Producer.does_of_step? hstep)).isRunning rfl
  | work w q notes hstep =>
    exact frame (Worker.steady_of_does (Worker.does_of_step? hstep)).isRunning rfl
  | sweep o es _ => exact frame (Worker.steady_flushed _ _ o).isRunning rfl
  | flushStep j f next q hf hstep =>
    exact frame (Flusher.steady_of_does (Flusher.does_of_step? hstep)).isRunning rfl
  | close onWorker =>
    intro hstop
    obtain ⟨c, hc, hs⟩ := h hstop
    exact ⟨c, List.mem_append_left _ hc, hs⟩
  | closeStep j c next q logger last said hc hstep =>
    intro hstop
    obtain ⟨keeps, hr | hn⟩ := Closer.hasStopped_of_step? hstep
    · exact exists_mem_set hc keeps (h (hr ▸ hstop))
    · have hlt := (List.getElem?_eq_some_iff.mp hc).1
      exact ⟨next, List.mem_of_getElem? (List.getElem?_set_self hlt), hn⟩
  | closeLapse j c logger limit hc =>
    intro hstop
    refine exists_mem_set hc (fun hs => ?_) (h hstop)
    rw [Closer.hasStopped_expire]
    exact hs
  | call _ _ _ => exact frame rfl rfl
  | lapse _ _ _ _ _ => exact frame rfl rfl
  | deliver _ _ _ _ _ => exact frame rfl rfl
  | flush _ => exact frame rfl rfl
  | flushAlone _ _ _ _ => exact frame rfl rfl
  | flushLapse _ _ _ _ _ => exact frame rfl rfl

theorem dismissed_of_reachable {capacity : Nat} {policy : Policy}
    (h : Reachable (start capacity policy m) s) : Dismissed s := by
  induction h with
  | start =>
    intro hstop
    cases hstop
  | step s t _ hs ih => exact dismissed_step ih hs

/-! ## 5. What follows -/

/-- **Some records at the front of a sequence without repetitions keep their place** in what is
left of it, if just the lost ones among them are not there. -/
theorem prefix_of_sublist {early late kept lost : List Nat} (nodup : (early ++ late).Nodup)
    (hs : kept.Sublist (early ++ late)) (hk : ∀ k ∈ early, k ∈ kept ↔ k ∉ lost) :
    early.filter (fun k => k ∉ lost) <+: kept := by
  obtain ⟨before, behind, rfl, hbefore, hbehind⟩ := List.sublist_append_iff.mp hs
  obtain ⟨hearly, -, apart⟩ := List.nodup_append.mp nodup
  have same : early.filter (fun k => k ∉ lost) = before := by
    refine (List.Nodup.perm_iff_eq_of_sublist hearly List.filter_sublist hbefore).mp ?_
    refine (List.perm_ext_iff_of_nodup (hearly.filter _) (hearly.sublist hbefore)).mpr fun k => ?_
    constructor
    · intro hm
      obtain ⟨hm, hlost⟩ := List.mem_filter.mp hm
      have hkept := (hk k hm).mpr (of_decide_eq_true hlost)
      rcases List.mem_append.mp hkept with hb | hb
      · exact hb
      · exact absurd rfl (apart k hm k (hbehind.subset hb))
    · intro hb
      have hm := hbefore.subset hb
      have hlost := (hk k hm).mp (List.mem_append_left _ hb)
      exact List.mem_filter.mpr ⟨hm, decide_eq_true hlost⟩
  rw [same]
  exact List.prefix_append _ _

/-- A record that entered a queue that was emptied is with the worker, or lost, and not both. -/
theorem Booked.handed_or_lost (h : Booked m t) {k : Nat} (hk : k ∈ t.ledger.entered)
    (left : t.Left k) : t.ledger.handed.count k + t.ledger.lost.count k = 1 := by
  have hone := h.places_of_entered hk
  rcases left with hh | hl
  · have := List.count_pos_iff.mpr hh
    omega
  · have := List.count_pos_iff.mpr hl
    omega

/-- Where no call makes room, what entered the queue is not lost. -/
theorem Booked.not_lost (h : Booked m t) (hr : Roomless t) {k : Nat} (hk : k ∈ t.ledger.entered) :
    k ∉ t.ledger.lost := by
  intro hlost
  have hcourse : k ∈ t.ledger.course := by
    rw [hr.whole]
    exact hk
  have hone := h.places_of_entered hk
  have hpos := List.count_pos_iff.mpr hcourse
  have hlpos := List.count_pos_iff.mpr hlost
  rw [Ledger.course, List.count_append] at hpos
  omega

/-- **A shutdown loses nothing that was queued before it.** Let a worker be gone that nothing was
thrown at, and take any moment at which the queue was not stopped yet.

* The queue is stopped by now, and it was a shutdown that stopped it.
* Each record that had entered the queue by that moment was given to the worker, or was counted as
  lost, and not both; the latter only in a queue that gives up the oldest to make room.
* Those given to the worker came before all others, in the order in which they had entered.
* The logger was called with just what the worker was given, in that order; and the metrics count
  what was lost.

This is so whatever became of the mark that ends the worker. -/
theorem drained_once_ended {capacity : Nat} {policy : Policy}
    (h : Reachable (start capacity policy m) s) (running : s.queue.isRunning = true)
    (ht : Reachable s t) (gone : t.worker.isOver = true) (calm : ∀ p, t.worker ≠ .crashed p) :
    (t.queue.isRunning = false ∧ ∃ c ∈ t.closers, c.hasStopped = true) ∧
    (∀ k ∈ s.ledger.entered, t.ledger.handed.count k + t.ledger.lost.count k = 1 ∧
      (policy ≠ .dropOldest → k ∉ t.ledger.lost)) ∧
    s.ledger.entered.filter (fun k => k ∉ t.ledger.lost) <+: t.ledger.handed ∧
    List.Forall₂ (fun k p => t.posts[k]? = some p) t.ledger.handed t.ledger.dispatched ∧
    wrapWord t.metrics.dropped = wrapWord (m.dropped + t.ledger.lost.length) := by
  have ended : t.worker = .ended := by
    cases hw : t.worker with
    | ended => rfl
    | crashed p => exact absurd hw (calm p)
    | idle | delivering _ _ | answering _ | draining | closing => rw [hw] at gone; cases gone
  have reached := h.trans ht
  obtain ⟨hb, hd⟩ := drained_of_reachable (booked_of_reachable h)
    (drained_of_running (halting_of_reachable h) running) ht
  have stopped : t.queue.isRunning = false :=
    (halting_of_reachable reached).worker (by rw [ended]; rfl)
  have left : ∀ k ∈ s.ledger.entered, t.Left k := hd.left (by rw [ended]; rfl)
  have once : ∀ k ∈ s.ledger.entered, t.ledger.handed.count k + t.ledger.lost.count k = 1 :=
    fun k hk => hb.handed_or_lost (hd.entered k hk) (left k hk)
  refine ⟨⟨stopped, dismissed_of_reachable reached stopped⟩, fun k hk => ⟨once k hk, ?_⟩, ?_, ?_,
    hb.counted⟩
  · intro hp
    exact hb.not_lost (roomless_of_reachable hp reached) (hd.entered k hk)
  · obtain ⟨late, elate⟩ := (ledger_of_reachable ht).entered
    have nodup := hb.nodup_entered
    have sub : t.ledger.handed.Sublist t.ledger.entered :=
      (List.sublist_append_left _ _).trans hb.kept
    rw [← elate] at nodup sub
    refine prefix_of_sublist nodup sub fun k hk => ?_
    have hone := once k hk
    rw [← List.count_pos_iff, ← List.count_eq_zero]
    omega
  · have hin := hb.inHand
    have hands : t.worker.inHand = [] := by rw [ended]; rfl
    rwa [hands, List.append_nil] at hin

/-- Room for one record: the first is there, and a second call has found the queue full. -/
def crammed : Traffic :=
  let first := ((start 1 .dropOldest {}).begin 0 ⟨.info, "first", {}⟩).produced 0 |>.produced 0
  (first.begin 1 ⟨.info, "second", {}⟩).produced 1 |>.produced 1

/-- The queue is shut down. The worker takes the first record, the second call throws out the mark
that ends the worker, and puts its record in the place. -/
def waylaid : Traffic :=
  let stopped := { crammed with closers := [.fresh false] }.closed 0 |>.closed 0
  let marked := stopped.worked.closed 0
  let second := marked.produced 1 |>.produced 1
  (second.delivered none).worked.delivered none |>.worked.worked.swept

theorem reachable_crammed : Reachable (start 1 .dropOldest {}) crammed :=
  have first := Reachable.step _ _ .start (.call _ 0 ⟨.info, "first", {}⟩ fun _ h => by cases h)
  have second := Reachable.step _ _ (first.produced 0 |>.produced 0)
    (.call _ 1 ⟨.info, "second", {}⟩ (by decide))
  second.produced 1 |>.produced 1

theorem reachable_waylaid : Reachable crammed waylaid :=
  have stopped := Reachable.step _ _ .start (.close crammed false) |>.closed 0 |>.closed 0
  have marked := stopped.worked.closed 0
  have second := marked.produced 1 |>.produced 1
  (second.delivered none).worked.delivered none |>.worked.worked.swept

theorem drained_once_ended_waylaid :
    waylaid.worker = .ended ∧ waylaid.queue.isRunning = false ∧
      crammed.ledger.entered = [0] ∧ [0] <+: waylaid.ledger.handed ∧
      waylaid.ledger.dispatched = [⟨.info, "first", {}⟩, ⟨.info, "second", {}⟩] := by
  obtain ⟨⟨stopped, -⟩, -, kept, -, -⟩ := drained_once_ended reachable_crammed rfl
    reachable_waylaid rfl (fun _ h => by cases h)
  exact ⟨rfl, stopped, rfl, kept, rfl⟩

end Traffic

end Logworks.Delivery
