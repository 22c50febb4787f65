import Logworks.Proofs.Delivery.Draining

/-!
# What a shutdown answers

The first shutdown takes the handle on the worker, and answers by what it sees of it: yes, if the
worker ended; no, if it crashed, or if the wait ran out. Every later one finds the handle taken and
answers yes at once. Whether the first is still waiting, or gave up, it does not ask. This file says
how far an answer can be trusted:

* `Honest` -- **a shutdown that has seen the worker end is right, and while no shutdown is unsure
  of it, so is every other that says yes**;
* `down_if_joined` -- the main fact: how each answer comes about, and what it says;
* `not_over_once_down` -- a later answer may be wrong, on the worker itself too.
-/

namespace Logworks.Delivery

open Fanout

/-! ## 1. Shutdowns that do not know -/

/-- The shutdown has the handle and has not seen the worker end, or it has answered no. -/
def Closer.isUnsure : Closer → Bool
  | stopping | marking | joining | parting false | finished false => true
  | fresh _ | parting true | finished true => false

/-- The shutdown has no part in the end of the worker: it has not looked for the handle, or was
refused on the worker itself. -/
def Closer.isApart : Closer → Bool
  | fresh _ | finished false => true
  | stopping | marking | joining | parting _ | finished true => false

namespace Closer

variable {w : Worker} {q r : Queue} {c next : Closer}

/-- Only the end of the worker takes the doubt away. -/
theorem isUnsure_of_turn (h : Turn w q c next r) (hc : c.isUnsure = true) :
    next.isUnsure = true ∨ w = .ended := by
  cases h with
  | stops => exact .inl rfl
  | marks _ => exact .inl rfl
  | joins hw => exact .inr hw
  | mourns _ _ => exact .inl rfl
  | parts isDown =>
    cases isDown with
    | false => exact .inl rfl
    | true => cases hc
  | dismissed _ _ => cases hc
  | refused _ => cases hc
  | takes _ => cases hc

theorem isUnsure_expire {logger limit : String} (hc : c.isUnsure = true) :
    (c.expire logger limit).1.isUnsure = true := by
  cases c with
  | marking | joining => rfl
  | fresh _ | stopping | parting _ | finished _ => exact hc

theorem isApart_expire {logger limit : String} (hc : c.isApart = true) :
    (c.expire logger limit).1.isApart = true := by
  cases c with
  | fresh _ | finished _ => exact hc
  | stopping | marking | joining | parting _ => cases hc

/-- A wait that runs out is no sight of the end. -/
theorem expire_eq_parting_true {logger limit : String}
    (h : (c.expire logger limit).1 = .parting true) : c = .parting true := by
  cases c with
  | marking | joining => cases h
  | fresh _ | stopping | parting _ | finished _ => exact h

end Closer

/-! ## 2. Answers that can be trusted -/

namespace Traffic

variable {m : Metrics} {s t : Traffic}

/-- **What the shutdowns know of the worker.** -/
structure Honest (s : Traffic) : Prop where
  /-- One that saw the worker end is right. -/
  joined : .parting true ∈ s.closers → s.worker = .ended
  /-- While the handle is there nobody waits for the worker, and nobody has said that it is
  down. -/
  untaken : s.queue.hasHandle = true → ∀ c ∈ s.closers, c.isApart = true
  /-- Once it was taken the worker has ended, or somebody is unsure. -/
  taken : s.queue.hasHandle = false → s.worker = .ended ∨ ∃ c ∈ s.closers, c.isUnsure = true

theorem honest_start (capacity : Nat) (policy : Policy) (m : Metrics) :
    Honest (start capacity policy m) where
  joined h := by cases h
  untaken _ c hc := by cases hc
  taken h := by cases h

theorem ended_step (hs : Step s t) (hw : s.worker = .ended) : t.worker = .ended := by
  have gone : s.worker.isOver = true := by rw [hw]; rfl
  exact (over_step gone hs).1.trans hw

/-- Shutdowns have no part in most steps. -/
theorem Honest.frame (h : Honest s) (hs : Step s t) (hh : t.queue.hasHandle = s.queue.hasHandle)
    (hc : t.closers = s.closers) : Honest t where
  joined hm := ended_step hs (h.joined (hc ▸ hm))
  untaken ht c hm := by
    rw [hc] at hm
    exact h.untaken (hh ▸ ht) c hm
  taken ht := by
    rw [hc]
    exact (h.taken (hh ▸ ht)).imp (ended_step hs) id

/-- While the handle is there a turn of a shutdown takes it, or leaves the shutdown apart. -/
theorem Honest.untaken_turn (h : Honest s) {j : Nat} {c next : Closer} {q : Queue}
    (hc : s.closers[j]? = some c) (turn : c.Turn s.worker s.queue next q)
    (hh : q.hasHandle = true) : ∀ d ∈ s.closers.set j next, d.isApart = true := by
  have before : s.queue.hasHandle = true := by
    cases turn with
    | dismissed _ _ | refused _ | stops | marks _ | joins _ | mourns _ _ | parts _ => exact hh
    | takes _ => cases hh
  have apart := h.untaken before c (List.mem_of_getElem? hc)
  intro d hd
  rcases List.mem_or_eq_of_mem_set hd with hd | rfl
  · exact h.untaken before d hd
  · cases turn with
    | refused _ => rfl
    | dismissed _ taken => rw [taken] at before; cases before
    | takes _ => cases hh
    | stops => cases apart
    | marks _ => cases apart
    | joins _ => cases apart
    | mourns _ _ => cases apart
    | parts _ => cases apart

/-- Once the handle was taken somebody is unsure until the worker has ended; the one who takes it
is so at first. -/
theorem Honest.taken_turn (h : Honest s) {j : Nat} {c next : Closer} {q : Queue}
    (hc : s.closers[j]? = some c) (turn : c.Turn s.worker s.queue next q)
    (hh : q.hasHandle = false) :
    s.worker = .ended ∨ ∃ d ∈ s.closers.set j next, d.isUnsure = true := by
  have goesOn : s.queue.hasHandle = false →
      s.worker = .ended ∨ ∃ d ∈ s.closers.set j next, d.isUnsure = true := by
    intro taken
    by_cases hw : s.worker = .ended
    · exact .inl hw
    · have unsure := (h.taken taken).resolve_left hw
      refine .inr (exists_mem_set hc (fun hu => ?_) unsure)
      exact (Closer.isUnsure_of_turn turn hu).resolve_right hw
  cases turn with
  | takes _ =>
    have hlt := (List.getElem?_eq_some_iff.mp hc).1
    exact .inr ⟨_, List.mem_of_getElem? (List.getElem?_set_self hlt), rfl⟩
  | dismissed _ _ | refused _ | stops | marks _ | joins _ | mourns _ _ | parts _ => exact goesOn hh

theorem honest_step (h : Honest s) (hs : Step s t) : Honest t := by
  have hs' := hs
  cases hs with
  | closeStep j c next q logger last said hc hstep =>
    have turn := Closer.turn_of_step? hstep
    refine { joined := fun hm => ?_, untaken := h.untaken_turn hc turn,
             taken := h.taken_turn hc turn }
    rcases List.mem_or_eq_of_mem_set hm with hm | rfl
    · exact h.joined hm
    · cases turn with
      | joins hw => exact hw
  | closeLapse j c logger limit hc =>
    refine { joined := fun hm => ?_, untaken := fun hh d hd => ?_, taken := fun hh => ?_ }
    · rcases List.mem_or_eq_of_mem_set hm with hm | he
      · exact h.joined hm
      · exact h.joined (Closer.expire_eq_parting_true he.symm ▸ List.mem_of_getElem? hc)
    · rcases List.mem_or_eq_of_mem_set hd with hd | rfl
      · exact h.untaken hh d hd
      · exact Closer.isApart_expire (h.untaken hh c (List.mem_of_getElem? hc))
    · exact (h.taken hh).imp id (exists_mem_set hc Closer.isUnsure_expire)
  | close onWorker =>
    refine { joined := fun hm => ?_, untaken := fun hh d hd => ?_, taken := fun hh => ?_ }
    · rcases List.mem_append.mp hm with hm | hm
      · exact h.joined hm
      · cases List.mem_singleton.mp hm
    · rcases List.mem_append.mp hd with hd | hd
      · exact h.untaken hh d hd
      · rw [List.mem_singleton.mp hd]
        rfl
    · exact (h.taken hh).imp id fun ⟨d, hd, hu⟩ => ⟨d, List.mem_append_left _ hd, hu⟩
  | produce k c next q notes hc hstep =>
    exact h.frame hs' (Producer.steady_of_does (Producer.does_of_step? hstep)).hasHandle rfl
  | work w q notes hstep =>
    exact h.frame hs' (Worker.steady_of_does (Worker.does_of_step? hstep)).hasHandle rfl
  | sweep o es _ => exact h.frame hs' (Worker.steady_flushed _ _ o).hasHandle rfl
  | flushStep j f next q hf hstep =>
    exact h.frame hs' (Flusher.steady_of_does (Flusher.does_of_step? hstep)).hasHandle rfl
  | call _ _ _ => exact h.frame hs' rfl rfl
  | lapse _ _ _ _ _ => exact h.frame hs' rfl rfl
  | deliver _ _ _ _ _ => exact h.frame hs' rfl rfl
  | flush _ => exact h.frame hs' rfl rfl
  | flushAlone _ _ _ _ => exact h.frame hs' rfl rfl
  | flushLapse _ _ _ _ _ => exact h.frame hs' rfl rfl

theorem honest_of_reachable {capacity : Nat} {policy : Policy}
    (h : Reachable (start capacity policy m) s) : Honest s := by
  induction h with
  | start => exact honest_start capacity policy m
  | step s t _ hs ih => exact honest_step ih hs

/-- Who says that the worker is down is right, or somebody is unsure. -/
theorem Honest.over_or_unsure (h : Honest s) (hd : .finished true ∈ s.closers) :
    s.worker = .ended ∨ ∃ c ∈ s.closers, c.isUnsure = true := by
  refine h.taken ?_
  cases hh : s.queue.hasHandle with
  | false => rfl
  | true => cases h.untaken hh _ hd

/-! ## 3. What follows -/

/-- Behind a worker that is gone the logger is not called any more. -/
theorem Booked.dispatched_of_over (hb : Booked m s) (hbt : Booked m t)
    (gone : s.worker.isOver = true) (ht : Reachable s t) :
    t.ledger.dispatched = s.ledger.dispatched := by
  obtain ⟨ew, eh⟩ := over_of_reachable gone ht
  have before := hb.inHand.length_eq
  have after := hbt.inHand.length_eq
  rw [Worker.inHand_of_isOver gone, List.append_nil] at before
  rw [ew, Worker.inHand_of_isOver gone, List.append_nil, eh] at after
  exact ((ledger_of_reachable ht).dispatched.eq_of_length (by omega)).symm

/-- **How far the answer of a shutdown can be trusted.**

* There are three ways to an answer. A shutdown that waited says what it saw, and if it says yes
  the worker has ended. One on the worker itself is refused, if the handle is there. One that finds
  the handle taken says yes. None of them does anything to the queue with its answer.
* While the handle is there a shutdown on the worker itself is refused at once, and says so.
* If any shutdown has said yes, the worker has ended, or some shutdown has the handle and has not
  seen the worker end, or has answered no.
* A worker that is gone stays so; it is given no record any more, and the logger is not called. -/
theorem down_if_joined {capacity : Nat} {policy : Policy}
    (h : Reachable (start capacity policy m) s) :
    (∀ (c : Closer) (logger : String) (last said : List Notice) (isDown : Bool) (q : Queue),
      c ∈ s.closers → c.step? logger last s.worker s.queue = some (.finished isDown, q, said) →
      q = s.queue ∧
      ((c = .parting isDown ∧ (isDown = true → s.worker = .ended)) ∨
        (c = .fresh true ∧ s.queue.hasHandle = true ∧ isDown = false) ∨
        ((∃ onWorker, c = .fresh onWorker) ∧ s.queue.hasHandle = false ∧ isDown = true))) ∧
    (s.queue.hasHandle = true → ∀ (logger : String) (last : List Notice),
      Closer.step? logger last s.worker s.queue (.fresh true) =
        some (.finished false, s.queue, [Closer.ownWorkerNotice logger])) ∧
    (.finished true ∈ s.closers → s.worker = .ended ∨ ∃ c ∈ s.closers, c.isUnsure = true) ∧
    (s.worker.isOver = true → ∀ t, Reachable s t → t.worker = s.worker ∧
      t.ledger.handed = s.ledger.handed ∧ t.ledger.dispatched = s.ledger.dispatched) := by
  have honest := honest_of_reachable h
  refine ⟨?_, fun hh logger last => ?_, honest.over_or_unsure, fun gone t ht => ?_⟩
  · intro c logger last said isDown q hc hstep
    cases Closer.turn_of_step? hstep with
    | dismissed onWorker hh => exact ⟨rfl, .inr (.inr ⟨⟨onWorker, rfl⟩, hh, rfl⟩)⟩
    | refused hh => exact ⟨rfl, .inr (.inl ⟨rfl, hh, rfl⟩)⟩
    | parts _ =>
      refine ⟨rfl, .inl ⟨rfl, fun hd => ?_⟩⟩
      rw [hd] at hc
      exact honest.joined hc
  · simp [Closer.step?, hh]
  · obtain ⟨ew, eh⟩ := over_of_reachable gone ht
    have hbt := booked_of_reachable (h.trans ht)
    exact ⟨ew, eh, (booked_of_reachable h).dispatched_of_over hbt gone ht⟩

/-- One record is logged, the queue is shut down, the worker delivers the record and ends, and the
shutdown has seen it. -/
def dismissed : Traffic :=
  let queued := ((start 8 .dropNewest {}).begin 0 ⟨.info, "one", {}⟩).produced 0 |>.produced 0
  let marked := { queued with closers := [.fresh false] }.closed 0 |>.closed 0 |>.closed 0
  (marked.worked.delivered none).worked.worked.swept.closed 0

theorem reachable_dismissed : Reachable (start 8 .dropNewest {}) dismissed :=
  have queued := (Reachable.step _ _ .start
    (.call _ 0 ⟨.info, "one", {}⟩ fun _ h => by cases h)).produced 0 |>.produced 0
  have marked := (Reachable.step _ _ queued (.close _ false)).closed 0 |>.closed 0 |>.closed 0
  (marked.worked.delivered none).worked.worked.swept.closed 0

theorem down_if_joined_dismissed :
    dismissed.closers = [.parting true] ∧ dismissed.worker = .ended ∧
      ∀ t, Reachable dismissed t → t.ledger.dispatched = [⟨.info, "one", {}⟩] := by
  obtain ⟨answers, -, -, stays⟩ := down_if_joined reachable_dismissed
  obtain ⟨-, ⟨-, sees⟩ | ⟨wrong, -⟩ | ⟨⟨_, wrong⟩, -⟩⟩ :=
    answers (.parting true) "" [] [] true dismissed.queue (by decide) rfl
  · exact ⟨rfl, sees rfl, fun t ht => (stays rfl t ht).2.2⟩
  · cases wrong
  · cases wrong

/-- The worker is busy with a record. A shutdown has taken the handle, put its mark into the queue,
and waited in vain. -/
def unattended : Traffic :=
  let busy := (((start 8 .dropNewest {}).begin 0 ⟨.info, "one", {}⟩).produced 0
    |>.produced 0).worked
  let joining := { busy with closers := [.fresh false] }.closed 0 |>.closed 0 |>.closed 0
  { joining with closers := [.parting false] }.closed 0

theorem reachable_unattended : Reachable (start 8 .dropNewest {}) unattended :=
  have busy := ((Reachable.step _ _ .start
    (.call _ 0 ⟨.info, "one", {}⟩ fun _ h => by cases h)).produced 0 |>.produced 0).worked
  have joining := (Reachable.step _ _ busy (.close _ false)).closed 0 |>.closed 0 |>.closed 0
  (Reachable.step _ _ joining (.closeLapse _ 0 .joining "svc" "100ms" rfl)).closed 0

/-- **Not every shutdown that says yes finds the worker gone**, and not every one on the worker
itself is refused: either says yes once the handle is taken. -/
theorem not_over_once_down :
    (¬ ∀ (capacity : Nat) (policy : Policy) (m : Metrics) (s : Traffic) (c : Closer)
      (logger : String) (last said : List Notice) (q : Queue),
      Reachable (start capacity policy m) s → c ∈ s.closers →
      c.step? logger last s.worker s.queue = some (.finished true, q, said) →
      s.worker.isOver = true) ∧
    ¬ ∀ (capacity : Nat) (policy : Policy) (m : Metrics) (s : Traffic) (logger : String)
      (last said : List Notice) (isDown : Bool) (q : Queue),
      Reachable (start capacity policy m) s → .fresh true ∈ s.closers →
      Closer.step? logger last s.worker s.queue (.fresh true) = some (.finished isDown, q, said) →
      isDown = false := by
  constructor
  · intro h
    have again := Reachable.step _ _ reachable_unattended (.close _ false)
    have gone := h 8 .dropNewest {} _ (.fresh false) "svc" [] [] _ again (by decide) rfl
    exact absurd gone (by decide)
  · intro h
    have again := Reachable.step _ _ reachable_unattended (.close _ true)
    have refused := h 8 .dropNewest {} _ "svc" [] [] true _ again (by decide) rfl
    exact absurd refused (by decide)

end Traffic

end Logworks.Delivery
