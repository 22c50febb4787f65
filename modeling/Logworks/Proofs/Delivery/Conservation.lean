import Logworks.Proofs.Delivery.Traffic
import Mathlib.Data.List.Forall2

/-!
# No record is lost sight of

Whoever logs, flushes, shuts down or delivers, and in whatever order: a record whose call has
ended is in the queue, or was given to the worker, or was counted as lost -- in one of these places
and there once. What the worker was given, and behind it what is still queued, stands in the order
in which the records were put into the queue.

* `Ledger.places` -- how often the ledger names a record, wherever;
* `Booked` -- **the invariant**: the ledger fits the queue, and each call that was made is either
  under way or names its record in one place;
* `booked_step`, `booked_of_reachable` -- each step keeps it, so it always holds;
* `records_conserved` -- the main fact.
-/

namespace Logworks.Delivery

open Fanout

/-! ## 1. The ledger -/

namespace Ledger

/-- How often the ledger names a record: in the queue, with the worker, among the lost. -/
def places (l : Ledger) (k : Nat) : Nat :=
  l.queued.count k + l.handed.count k + l.lost.count k

/-- What the worker was given, and what it is to be given next if nothing is thrown out. -/
def course (l : Ledger) : List Nat := l.handed ++ l.queued

theorem queued_eq_front_append (l : Ledger) :
    l.queued = l.front ++ l.slots.tail.filterMap id := by
  cases h : l.slots <;> simp [queued, front, h, List.filterMap_cons]
  split <;> simp_all

@[simp] theorem queued_enter (l : Ledger) (k : Nat) : (l.enter k).queued = l.queued ++ [k] := by
  simp [queued, enter]

@[simp] theorem queued_enterMark (l : Ledger) : l.enterMark.queued = l.queued := by
  simp [queued, enterMark]

theorem places_enter (l : Ledger) (k j : Nat) :
    (l.enter k).places j = l.places j + if j = k then 1 else 0 := by
  show (l.enter k).queued.count j + l.handed.count j + l.lost.count j = _
  rw [queued_enter, List.count_append, List.count_singleton, places]
  by_cases h : j = k
  · simp only [h, beq_self_eq_true, if_true]
    omega
  · simp only [h, beq_false_of_ne (Ne.symm h), if_false, Bool.false_eq_true]
    omega

theorem places_refuse (l : Ledger) (k j : Nat) :
    (l.refuse k).places j = l.places j + if j = k then 1 else 0 := by
  show l.queued.count j + l.handed.count j + (l.lost ++ [k]).count j = _
  rw [List.count_append, List.count_singleton, places]
  by_cases h : j = k
  · simp only [h, beq_self_eq_true, if_true]
    omega
  · simp only [h, beq_false_of_ne (Ne.symm h), if_false, Bool.false_eq_true]
    omega

@[simp] theorem places_enterMark (l : Ledger) (j : Nat) : l.enterMark.places j = l.places j := by
  show l.enterMark.queued.count j + l.handed.count j + l.lost.count j = _
  rw [queued_enterMark]
  rfl

/-- What leaves the front of the queue is named at its new place. -/
@[simp] theorem places_evict (l : Ledger) (j : Nat) : l.evict.places j = l.places j := by
  show (l.slots.tail.filterMap id).count j + l.handed.count j + (l.lost ++ l.front).count j = _
  rw [places, queued_eq_front_append, List.count_append, List.count_append]
  omega

@[simp] theorem places_hand (l : Ledger) (j : Nat) : l.hand.places j = l.places j := by
  show (l.slots.tail.filterMap id).count j + (l.handed ++ l.front).count j + l.lost.count j = _
  rw [places, queued_eq_front_append, List.count_append, List.count_append]
  omega

theorem course_enter (l : Ledger) (k : Nat) : (l.enter k).course = l.course ++ [k] := by
  simp [course, enter, queued]

@[simp] theorem course_enterMark (l : Ledger) : l.enterMark.course = l.course := by
  simp [course, enterMark, queued]

@[simp] theorem course_hand (l : Ledger) : l.hand.course = l.course := by
  show (l.handed ++ l.front) ++ l.slots.tail.filterMap id = _
  rw [course, queued_eq_front_append, List.append_assoc]

/-- Throwing the front out leaves a gap. -/
theorem course_evict_sublist (l : Ledger) : l.evict.course.Sublist l.course := by
  show (l.handed ++ l.slots.tail.filterMap id).Sublist _
  rw [course, queued_eq_front_append]
  exact (List.sublist_append_right _ _).append_left _

/-- The ledger after a step of a call, by what the step did. -/
theorem afterCall_of_goesOn (l : Ledger) (k : Nat) (q : Queue) {next : Producer}
    (hn : next ≠ .finished) : l.afterCall k q q next = l := by
  simp [afterCall, hn]

theorem afterCall_of_longer (l : Ledger) (k : Nat) {q r : Queue} (next : Producer)
    (h : q.items.length < r.items.length) : l.afterCall k q r next = l.enter k := by
  simp [afterCall, h]

theorem afterCall_of_refused (l : Ledger) (k : Nat) (q : Queue) :
    l.afterCall k q q .finished = l.refuse k := by
  simp [afterCall]

theorem afterCall_of_shorter (l : Ledger) (k : Nat) {q r : Queue} (next : Producer)
    (h : r.items.length < q.items.length) : l.afterCall k q r next = l.evict := by
  simp [afterCall, h, Nat.lt_asymm h]

@[simp] theorem handed_afterCall (l : Ledger) (k : Nat) (q r : Queue) (next : Producer) :
    (l.afterCall k q r next).handed = l.handed := by
  unfold afterCall
  split
  · rfl
  · split
    · rfl
    · split <;> rfl

@[simp] theorem dispatched_afterCall (l : Ledger) (k : Nat) (q r : Queue) (next : Producer) :
    (l.afterCall k q r next).dispatched = l.dispatched := by
  unfold afterCall
  split
  · rfl
  · split
    · rfl
    · split <;> rfl

@[simp] theorem handed_afterMark (l : Ledger) (q r : Queue) :
    (l.afterMark q r).handed = l.handed := by
  unfold afterMark
  split <;> rfl

@[simp] theorem entered_afterMark (l : Ledger) (q r : Queue) :
    (l.afterMark q r).entered = l.entered := by
  unfold afterMark
  split <;> rfl

@[simp] theorem entered_afterWork (l : Ledger) (q r : Queue) :
    (l.afterWork q r).entered = l.entered := by
  unfold afterWork
  split <;> rfl

@[simp] theorem dispatched_afterWork (l : Ledger) (q r : Queue) :
    (l.afterWork q r).dispatched = l.dispatched := by
  unfold afterWork
  split <;> rfl

@[simp] theorem dispatched_afterMark (l : Ledger) (q r : Queue) :
    (l.afterMark q r).dispatched = l.dispatched := by
  unfold afterMark
  split <;> rfl

end Ledger

/-- A worker that takes commands has none in hand. -/
theorem Worker.inHand_of_taking {w : Worker} (h : w = .idle ∨ w = .draining) : w.inHand = [] := by
  rcases h with rfl | rfl <;> rfl

theorem Worker.inHand_of_isFlushing {w : Worker} (h : w.isFlushing = true) : w.inHand = [] := by
  cases w with
  | answering ticket | closing => rfl
  | idle | delivering _ _ | draining | ended | crashed _ => cases h

@[simp] theorem Worker.inHand_delivered (w : Worker) (thrown : Option Payload) :
    (w.delivered thrown).inHand = [] := by
  cases thrown with
  | some q => rfl
  | none =>
    cases w with
    | delivering r isDraining => cases isDraining <;> rfl
    | idle | answering _ | draining | closing | ended | crashed _ => rfl

@[simp] theorem Worker.inHand_flushed (w : Worker) (q : Queue) (o : Outcome) :
    (w.flushed q o).1.inHand = [] := by
  cases o <;> cases w <;> rfl

/-- A worker that is busy with a flush takes nothing from the queue. -/
theorem Worker.step?_of_isFlushing {w : Worker} (h : w.isFlushing = true) (q : Queue) :
    w.step? q = none := by
  cases w with
  | answering ticket | closing => rfl
  | idle | delivering _ _ | draining | ended | crashed _ => cases h

theorem Worker.inHand_of_isOver {w : Worker} (h : w.isOver = true) : w.inHand = [] := by
  cases w with
  | ended | crashed _ => rfl
  | idle | delivering _ _ | answering _ | draining | closing => cases h

/-- A worker that is done with a flush goes on to something else. -/
theorem Worker.flushed_ne {w : Worker} (hf : w.isFlushing = true) (q : Queue) (o : Outcome) :
    (w.flushed q o).1 ≠ w := by
  cases w with
  | answering _ | closing => cases o <;> exact nofun
  | idle | delivering _ _ | draining | ended | crashed _ => cases hf

/-! ## 2. Calls -/

/-- 1 for a call that is under way, and 0 for any other number. -/
def openCount (calls : List LogCall) (k : Nat) : Nat :=
  match calls[k]? with
  | some c => if c.progress = .finished then 0 else 1
  | none => 0

theorem openCount_of_some {calls : List LogCall} {k : Nat} {c : LogCall}
    (hc : calls[k]? = some c) :
    openCount calls k = if c.progress = .finished then 0 else 1 := by
  simp [openCount, hc]

theorem openCount_set {calls : List LogCall} {k : Nat} {c : LogCall} (hc : calls[k]? = some c)
    (d : LogCall) (j : Nat) :
    openCount (calls.set k d) j =
      if j = k then (if d.progress = .finished then 0 else 1) else openCount calls j := by
  have hk : k < calls.length := (List.getElem?_eq_some_iff.mp hc).1
  by_cases h : j = k
  · subst h
    simp [openCount, hk]
  · simp [openCount, h, List.getElem?_set_ne (Ne.symm h)]

/-- An entry of a list with one more at its end. -/
theorem concat_eq_some {α : Type} {l : List α} {a b : α} {k : Nat}
    (h : (l ++ [a])[k]? = some b) : l[k]? = some b ∨ k = l.length ∧ b = a := by
  have hk : k < l.length + 1 := by simpa using (List.getElem?_eq_some_iff.mp h).1
  by_cases e : k = l.length
  · subst e
    rw [List.getElem?_concat_length] at h
    exact .inr ⟨rfl, (Option.some.inj h).symm⟩
  · rw [List.getElem?_append_left (by omega)] at h
    exact .inl h

theorem openCount_concat (calls : List LogCall) (d : LogCall) (j : Nat) :
    openCount (calls ++ [d]) j =
      if j = calls.length then (if d.progress = .finished then 0 else 1)
      else openCount calls j := by
  rcases Nat.lt_trichotomy j calls.length with h | h | h
  · simp [openCount, List.getElem?_append_left h, Nat.ne_of_lt h]
  · simp [openCount, h]
  · have h1 : calls.length + 1 ≤ j := h
    simp [openCount, List.getElem?_eq_none (Nat.le_of_lt h), Nat.ne_of_gt h,
      List.getElem?_eq_none (l := calls ++ [d]) (by simpa using h1)]

/-- The progress of a call has no part in who made it or what it logs. -/
theorem map_set_progress {α : Type} (f : LogCall → α) {calls : List LogCall} {k : Nat}
    {c : LogCall} (hc : calls[k]? = some c) (next : Producer)
    (hf : f { c with progress := next } = f c) :
    (calls.set k { c with progress := next }).map f = calls.map f := by
  obtain ⟨hk, rfl⟩ := List.getElem?_eq_some_iff.mp hc
  rw [List.map_set, hf, ← List.getElem_map f (h := by simpa using hk)]
  exact List.set_getElem_self _

theorem wrapWord_succ {a b : Nat} (h : wrapWord a = wrapWord b) :
    wrapWord (wrapWord (a + 1)) = wrapWord (b + 1) := by
  rw [wrapWord_wrapWord]
  exact wrapWord_add_congr 1 h

@[simp] theorem dropped_note (m : Metrics) (e : Event) : (m.note e).dropped = m.dropped := by
  cases e <;> rfl

@[simp] theorem dropped_foldl_note (es : List Event) (m : Metrics) :
    (es.foldl Metrics.note m).dropped = m.dropped := by
  induction es generalizing m with
  | nil => rfl
  | cons e es ih => rw [List.foldl_cons, ih, dropped_note]

/-! ## 3. The invariant -/

/-- A slot of the ledger names the command in the queue. -/
def Bears (posts : List Post) : Command → Option Nat → Prop
  | .post p, some k => posts[k]? = some p
  | .flush _, none | .stop, none => True
  | _, _ => False

theorem Bears.mono {posts : List Post} (p : Post) {c : Command} {slot : Option Nat}
    (h : Bears posts c slot) : Bears (posts ++ [p]) c slot := by
  cases c <;> cases slot <;> simp only [Bears] at h ⊢
  rw [List.getElem?_append_left (List.getElem?_eq_some_iff.mp h).1]
  exact h

namespace Traffic

/-- **The ledger is kept**: `m` is what the metrics were at the start. -/
structure Booked (m : Metrics) (s : Traffic) : Prop where
  /-- The ledger names the commands in the queue. -/
  fits : List.Forall₂ (Bears s.posts) s.queue.items s.ledger.slots
  /-- A call is under way, or its record is in one place. -/
  once : ∀ k, openCount s.calls k + s.ledger.places k = if k < s.calls.length then 1 else 0
  /-- A call that is under way has its own record. -/
  carries : ∀ (k : Nat) (c : LogCall) (p : Post),
    s.calls[k]? = some c → c.progress.post? = some p → p = c.post
  /-- The call under way of a caller is the caller's last. -/
  last : ∀ (k : Nat) (c : LogCall), s.calls[k]? = some c → c.progress ≠ .finished →
    ∀ (j : Nat) (d : LogCall), k < j → s.calls[j]? = some d → d.caller ≠ c.caller
  /-- Records are put into the queue as their calls end. -/
  ended : ∀ k ∈ s.ledger.entered, k < s.calls.length ∧ openCount s.calls k = 0
  /-- Each goes in once, and those of one caller in the order of the calls. -/
  ordered : s.ledger.entered.Pairwise fun j k => j ≠ k ∧ (s.callers[j]? = s.callers[k]? → j < k)
  kept : s.ledger.course.Sublist s.ledger.entered
  /-- The logger is called with what the worker was given, record by record. -/
  inHand : List.Forall₂ (fun k p => s.posts[k]? = some p) s.ledger.handed
    (s.ledger.dispatched ++ s.worker.inHand)
  counted : wrapWord s.metrics.dropped = wrapWord (m.dropped + s.ledger.lost.length)

theorem booked_start (capacity : Nat) (policy : Policy) (m : Metrics) :
    Booked m (start capacity policy m) where
  fits := .nil
  once _ := rfl
  carries _ _ _ h := by cases h
  last _ _ h := by cases h
  ended _ h := by cases h
  ordered := .nil
  kept := .slnil
  inHand := .nil
  counted := rfl

/-! ## 4. Each step keeps it -/

variable {m : Metrics} {s t : Traffic}

/-- A step that touches neither the queue nor a call, and counts no loss. -/
theorem Booked.frame (h : Booked m s) (hq : t.queue.items = s.queue.items)
    (hc : t.calls = s.calls) (hl : t.ledger = s.ledger)
    (hd : t.metrics.dropped = s.metrics.dropped)
    (hw : t.worker.inHand = s.worker.inHand) : Booked m t where
  fits := by rw [hq, hl, posts, hc]; exact h.fits
  once := by rw [hc, hl]; exact h.once
  carries := by rw [hc]; exact h.carries
  last := by rw [hc]; exact h.last
  ended := by rw [hc, hl]; exact h.ended
  ordered := by rw [hl, callers, hc]; exact h.ordered
  kept := by rw [hl]; exact h.kept
  inHand := by rw [hl, posts, hc, hw]; exact h.inHand
  counted := by rw [hd, hl]; exact h.counted

/-- A mark is put at the back. -/
theorem Booked.mark (h : Booked m s) {c : Command} (hb : Bears s.posts c none)
    (hq : t.queue.items = s.queue.items ++ [c]) (hc : t.calls = s.calls)
    (hl : t.ledger = s.ledger.enterMark) (hd : t.metrics = s.metrics)
    (hw : t.worker = s.worker) : Booked m t where
  fits := by
    rw [hq, hl, posts, hc]
    exact List.rel_append h.fits (.cons hb .nil)
  once := by
    rw [hc, hl]
    simpa using h.once
  carries := by rw [hc]; exact h.carries
  last := by rw [hc]; exact h.last
  ended := by rw [hc, hl]; exact h.ended
  ordered := by rw [hl, callers, hc]; exact h.ordered
  kept := by
    rw [hl, Ledger.course_enterMark]
    exact h.kept
  inHand := by
    rw [hl, posts, hc, hw]
    exact h.inHand
  counted := by rw [hd, hl]; exact h.counted

@[simp] theorem posts_begin (s : Traffic) (caller : Nat) (p : Post) :
    (s.begin caller p).posts = s.posts ++ [p] := by
  simp [posts, begin]

@[simp] theorem callers_begin (s : Traffic) (caller : Nat) (p : Post) :
    (s.begin caller p).callers = s.callers ++ [caller] := by
  simp [callers, begin]

theorem Booked.lt_callers (h : Booked m s) {k : Nat} (hk : k ∈ s.ledger.entered) :
    k < s.callers.length := by
  simpa [callers] using (h.ended k hk).1

/-- A call begins. -/
theorem Booked.begin (h : Booked m s) (caller : Nat) (p : Post)
    (free : ∀ c ∈ s.calls, c.caller = caller → c.progress = .finished) :
    Booked m (s.begin caller p) where
  fits := by
    rw [posts_begin]
    exact h.fits.imp fun _ _ => Bears.mono p
  once k := by
    have hk := h.once k
    show openCount (s.calls ++ [⟨caller, p, .fresh p⟩]) k + s.ledger.places k =
      if k < (s.calls ++ [_]).length then 1 else 0
    rw [openCount_concat, List.length_append, List.length_singleton]
    by_cases e : k = s.calls.length
    · subst e
      simp only [Nat.lt_irrefl, if_false] at hk
      simp only [if_true, Nat.lt_succ_self, reduceCtorEq, if_false]
      omega
    · rw [if_neg e, hk]
      by_cases hlt : k < s.calls.length
      · rw [if_pos hlt, if_pos (by omega)]
      · rw [if_neg hlt, if_neg (by omega)]
  carries k c q hc hq := by
    rcases concat_eq_some hc with hc | ⟨_, rfl⟩
    · exact h.carries k c q hc hq
    · exact (Option.some.inj hq).symm
  last k c hc ho j d hj hd := by
    rcases concat_eq_some hc with hc | ⟨rfl, rfl⟩
    · rcases concat_eq_some hd with hd | ⟨_, rfl⟩
      · exact h.last k c hc ho j d hj hd
      · exact fun e => ho (free c (List.mem_of_getElem? hc) e.symm)
    · have hlt : j < s.calls.length + 1 := by
        simpa [Traffic.begin] using (List.getElem?_eq_some_iff.mp hd).1
      omega
  ended k hk := by
    obtain ⟨hlt, ho⟩ := h.ended k hk
    show k < (s.calls ++ [_]).length ∧ openCount (s.calls ++ [_]) k = 0
    rw [openCount_concat, if_neg (Nat.ne_of_lt hlt), List.length_append]
    exact ⟨Nat.lt_add_right _ hlt, ho⟩
  ordered := by
    refine h.ordered.imp_of_mem fun {j k} hj hk hjk => ⟨hjk.1, fun e => hjk.2 ?_⟩
    rwa [callers_begin, List.getElem?_append_left (h.lt_callers hj),
      List.getElem?_append_left (h.lt_callers hk)] at e
  kept := h.kept
  inHand := by
    refine h.inHand.imp fun k q hq => ?_
    rw [posts_begin, List.getElem?_append_left (List.getElem?_eq_some_iff.mp hq).1]
    exact hq
  counted := h.counted

theorem posts_advance {k : Nat} {c : LogCall} (hc : s.calls[k]? = some c) (next : Producer)
    (q : Queue) (notes : List Note) : (s.advance k c next q notes).posts = s.posts :=
  map_set_progress LogCall.post hc next rfl

theorem callers_advance {k : Nat} {c : LogCall} (hc : s.calls[k]? = some c) (next : Producer)
    (q : Queue) (notes : List Note) : (s.advance k c next q notes).callers = s.callers :=
  map_set_progress LogCall.caller hc next rfl

/-- A call that is under way is not among those whose record was put into the queue. -/
theorem Booked.not_entered (h : Booked m s) {k : Nat} {c : LogCall} (hc : s.calls[k]? = some c)
    (ho : c.progress ≠ .finished) : k ∉ s.ledger.entered := by
  intro hk
  have := (h.ended k hk).2
  rw [openCount_of_some hc, if_neg ho] at this
  cases this

/-- Any record put into the queue earlier belongs before that of a call under way. -/
theorem Booked.lt_of_open (h : Booked m s) {j k : Nat} {c : LogCall} (hc : s.calls[k]? = some c)
    (ho : c.progress ≠ .finished) (hj : j ∈ s.ledger.entered)
    (e : s.callers[j]? = s.callers[k]?) : j < k := by
  have hne : j ≠ k := fun e' => h.not_entered hc ho (e' ▸ hj)
  refine Nat.lt_of_le_of_ne (Nat.le_of_not_lt fun hlt => ?_) hne
  obtain ⟨d, hd⟩ : ∃ d, s.calls[j]? = some d := ⟨_, List.getElem?_eq_getElem (h.ended j hj).1⟩
  refine h.last k c hc ho j d hlt hd ?_
  simpa [callers, hc, hd] using e

/-- What holds of the calls of `s`, with call `k` at `next`. -/
theorem Booked.carries_advance (h : Booked m s) {k : Nat} {c : LogCall}
    (hc : s.calls[k]? = some c) {next : Producer}
    (hn : ∀ p, next.post? = some p → c.progress.post? = some p) (j : Nat) (d : LogCall) (p : Post)
    (hd : (s.calls.set k { c with progress := next })[j]? = some d)
    (hp : d.progress.post? = some p) : p = d.post := by
  by_cases e : j = k
  · subst e
    rw [List.getElem?_set_self (List.getElem?_eq_some_iff.mp hc).1] at hd
    cases hd
    exact h.carries j c p hc (hn p hp)
  · rw [List.getElem?_set_ne (Ne.symm e)] at hd
    exact h.carries j d p hd hp

theorem Booked.last_advance (h : Booked m s) {k : Nat} {c : LogCall} (hc : s.calls[k]? = some c)
    {next : Producer} (ho : c.progress ≠ .finished) (i : Nat) (b : LogCall)
    (hb : (s.calls.set k { c with progress := next })[i]? = some b)
    (hbo : b.progress ≠ .finished) (j : Nat) (d : LogCall) (hij : i < j)
    (hd : (s.calls.set k { c with progress := next })[j]? = some d) : d.caller ≠ b.caller := by
  -- both entries are what they were but for their progress
  have old : ∀ (i : Nat) (b : LogCall),
      (s.calls.set k { c with progress := next })[i]? = some b →
      ∃ b', s.calls[i]? = some b' ∧ b'.caller = b.caller ∧
        (b.progress ≠ .finished → b'.progress ≠ .finished) := by
    intro i b hb
    by_cases e : i = k
    · subst e
      rw [List.getElem?_set_self (List.getElem?_eq_some_iff.mp hc).1] at hb
      cases hb
      exact ⟨c, hc, rfl, fun _ => ho⟩
    · rw [List.getElem?_set_ne (Ne.symm e)] at hb
      exact ⟨b, hb, rfl, id⟩
  obtain ⟨b', hb', eb, hbo'⟩ := old i b hb
  obtain ⟨d', hd', ed, _⟩ := old j d hd
  rw [← eb, ← ed]
  exact h.last i b' hb' (hbo' hbo) j d' hij hd'

@[simp] theorem length_advance (s : Traffic) (k : Nat) (c : LogCall) (next : Producer)
    (q : Queue) (notes : List Note) :
    (s.advance k c next q notes).calls.length = s.calls.length :=
  List.length_set

theorem openCount_advance {k : Nat} {c : LogCall} (hc : s.calls[k]? = some c) (next : Producer)
    (q : Queue) (notes : List Note) (j : Nat) :
    openCount (s.advance k c next q notes).calls j =
      if j = k then (if next = .finished then 0 else 1) else openCount s.calls j :=
  openCount_set hc _ j

/-- A call that goes on stays under way. -/
theorem openCount_advance_of_open {k : Nat} {c : LogCall} (hc : s.calls[k]? = some c)
    (ho : c.progress ≠ .finished) {next : Producer} (hn : next ≠ .finished) (q : Queue)
    (notes : List Note) (j : Nat) :
    openCount (s.advance k c next q notes).calls j = openCount s.calls j := by
  rw [openCount_advance hc]
  by_cases e : j = k
  · rw [if_pos e, e, openCount_of_some hc, if_neg ho, if_neg hn]
  · rw [if_neg e]

/-- A call that ends has its record named once more. -/
theorem Booked.once_of_end (h : Booked m s) {k : Nat} {c : LogCall} (hc : s.calls[k]? = some c)
    (ho : c.progress ≠ .finished) {l : Ledger}
    (hl : ∀ j, l.places j = s.ledger.places j + if j = k then 1 else 0) (q : Queue)
    (notes : List Note) (j : Nat) :
    openCount (s.advance k c .finished q notes).calls j + l.places j =
      if j < (s.advance k c .finished q notes).calls.length then 1 else 0 := by
  rw [openCount_advance hc, hl, length_advance, ← h.once j]
  by_cases e : j = k
  · rw [if_pos e, if_pos e, if_pos rfl, e, openCount_of_some hc, if_neg ho]
    omega
  · rw [if_neg e, if_neg e, Nat.add_zero]

/-- What was put into the queue earlier was by calls that have ended. -/
theorem Booked.ended_advance (h : Booked m s) {k : Nat} {c : LogCall}
    (hc : s.calls[k]? = some c) (ho : c.progress ≠ .finished) (next : Producer) (q : Queue)
    (notes : List Note) (j : Nat) (hj : j ∈ s.ledger.entered) :
    j < (s.advance k c next q notes).calls.length ∧
      openCount (s.advance k c next q notes).calls j = 0 := by
  have hne : j ≠ k := fun e => h.not_entered hc ho (e ▸ hj)
  rw [length_advance, openCount_advance hc, if_neg hne]
  exact h.ended j hj

/-- A call goes on, and leaves the queue alone. -/
theorem Booked.goesOn (h : Booked m s) {k : Nat} {c : LogCall} (hc : s.calls[k]? = some c)
    {next : Producer} {p : Post} (hp : c.progress.post? = some p) (hn : next.post? = some p) :
    Booked m (s.advance k c next s.queue []) := by
  have ho := Producer.ne_finished_of_post? hp
  have hno := Producer.ne_finished_of_post? hn
  have hl : (s.advance k c next s.queue []).ledger = s.ledger :=
    s.ledger.afterCall_of_goesOn k s.queue hno
  exact {
    fits := by rw [posts_advance hc, hl]; exact h.fits
    once := fun j => by
      rw [openCount_advance_of_open hc ho hno, hl, length_advance]
      exact h.once j
    carries := h.carries_advance hc fun q hq => by rw [hp, ← hn, hq]
    last := h.last_advance hc ho
    ended := fun j hj => h.ended_advance hc ho _ _ _ j (hl ▸ hj)
    ordered := by rw [hl, callers_advance hc]; exact h.ordered
    kept := by rw [hl]; exact h.kept
    inHand := by rw [hl, posts_advance hc]; exact h.inHand
    counted := by rw [hl]; exact h.counted }

/-- A call puts its record at the back, and ends. -/
theorem Booked.places (h : Booked m s) {k : Nat} {c : LogCall} (hc : s.calls[k]? = some c)
    {p : Post} (hp : c.progress.post? = some p) (depth : Nat) :
    Booked m (s.advance k c .finished
      { s.queue with items := s.queue.items ++ [.post p] } [.depth depth]) := by
  have ho := Producer.ne_finished_of_post? hp
  have hl : (s.advance k c .finished { s.queue with items := s.queue.items ++ [.post p] }
      [.depth depth]).ledger = s.ledger.enter k :=
    s.ledger.afterCall_of_longer k _ (by simp)
  have hpost : s.posts[k]? = some p := by
    simp [posts, hc, h.carries k c p hc hp]
  exact {
    fits := by
      rw [posts_advance hc, hl]
      exact List.rel_append h.fits (.cons hpost .nil)
    once := fun j => by
      rw [hl]
      exact h.once_of_end hc ho (s.ledger.places_enter k) _ _ j
    carries := h.carries_advance hc fun q hq => by cases hq
    last := h.last_advance hc ho
    ended := fun j hj => by
      rw [hl] at hj
      rcases List.mem_append.mp hj with hj | hj
      · exact h.ended_advance hc ho _ _ _ j hj
      · rw [List.mem_singleton.mp hj, length_advance, openCount_advance hc, if_pos rfl, if_pos rfl]
        exact ⟨(List.getElem?_eq_some_iff.mp hc).1, rfl⟩
    ordered := by
      rw [hl, callers_advance hc]
      refine List.pairwise_append.mpr ⟨h.ordered, List.pairwise_singleton _ _, ?_⟩
      intro j hj i hi
      rw [List.mem_singleton.mp hi]
      exact ⟨fun e => h.not_entered hc ho (e ▸ hj), h.lt_of_open hc ho hj⟩
    kept := by
      rw [hl, Ledger.course_enter]
      exact h.kept.append (List.Sublist.refl _)
    inHand := by rw [hl, posts_advance hc]; exact h.inHand
    counted := by rw [hl]; exact h.counted }

/-- A call gives its record up, and ends. -/
theorem Booked.refuses (h : Booked m s) {k : Nat} {c : LogCall} (hc : s.calls[k]? = some c)
    {p : Post} (hp : c.progress.post? = some p) (isLoud : Bool) :
    Booked m (s.advance k c .finished s.queue [.lost p isLoud]) := by
  have ho := Producer.ne_finished_of_post? hp
  have hl : (s.advance k c .finished s.queue [.lost p isLoud]).ledger = s.ledger.refuse k :=
    s.ledger.afterCall_of_refused k s.queue
  exact {
    fits := by rw [posts_advance hc, hl]; exact h.fits
    once := fun j => by
      rw [hl]
      exact h.once_of_end hc ho (s.ledger.places_refuse k) _ _ j
    carries := h.carries_advance hc fun q hq => by cases hq
    last := h.last_advance hc ho
    ended := fun j hj => h.ended_advance hc ho _ _ _ j (by rw [hl] at hj; exact hj)
    ordered := by rw [hl, callers_advance hc]; exact h.ordered
    kept := by rw [hl]; exact h.kept
    inHand := by rw [hl, posts_advance hc]; exact h.inHand
    counted := by
      rw [hl]
      show wrapWord (wrapWord (s.metrics.dropped + 1)) =
        wrapWord (m.dropped + (s.ledger.lost ++ [k]).length)
      rw [List.length_append, List.length_singleton, ← Nat.add_assoc]
      exact wrapWord_succ h.counted }

/-- What the slot at the front is, by the command there. -/
theorem Booked.front_of_post (h : Booked m s) {p : Post} {rest : List Command}
    (hq : s.queue.items = .post p :: rest) : ∃ k, s.ledger.front = [k] ∧ s.posts[k]? = some p := by
  have hf := h.fits
  rw [hq] at hf
  cases hs : s.ledger.slots with
  | nil => rw [hs] at hf; cases hf
  | cons slot slots =>
    rw [hs, List.forall₂_cons] at hf
    cases slot with
    | none => exact absurd hf.1 (by simp [Bears])
    | some k => exact ⟨k, by simp [Ledger.front, hs], hf.1⟩

theorem Booked.front_of_mark (h : Booked m s) {c : Command} {rest : List Command}
    (hq : s.queue.items = c :: rest) (hc : ∀ p, c ≠ .post p) : s.ledger.front = [] := by
  have hf := h.fits
  rw [hq] at hf
  cases hs : s.ledger.slots with
  | nil => rw [hs] at hf; cases hf
  | cons slot slots =>
    rw [hs, List.forall₂_cons] at hf
    cases slot with
    | none => simp [Ledger.front, hs]
    | some k =>
      cases c with
      | post p => exact absurd rfl (hc p)
      | flush ticket => exact hf.1.elim
      | stop => exact hf.1.elim

theorem Booked.fits_tail (h : Booked m s) {c : Command} {rest : List Command}
    (hq : s.queue.items = c :: rest) :
    List.Forall₂ (Bears s.posts) rest s.ledger.slots.tail := by
  have hf := h.fits
  rw [hq] at hf
  cases hs : s.ledger.slots with
  | nil => rw [hs] at hf; cases hf
  | cons slot slots =>
    rw [hs, List.forall₂_cons] at hf
    exact hf.2

/-- What is counted for a command that is thrown out: its record, if it is one. -/
theorem Booked.dropped_giveUp (h : Booked m s) {c : Command} {rest : List Command}
    (hq : s.queue.items = c :: rest) (q : Queue) :
    wrapWord ((q.giveUp c).2.foldl Metrics.hear s.metrics).dropped =
      wrapWord (m.dropped + (s.ledger.lost ++ s.ledger.front).length) := by
  cases c with
  | post p =>
    obtain ⟨k, hk, _⟩ := h.front_of_post hq
    rw [hk, List.length_append, List.length_singleton, ← Nat.add_assoc]
    exact wrapWord_succ h.counted
  | flush ticket =>
    rw [h.front_of_mark hq fun p => by simp, List.append_nil]
    exact h.counted
  | stop =>
    rw [h.front_of_mark hq fun p => by simp, List.append_nil]
    exact h.counted

/-- A call throws out the command at the front, and goes on. -/
theorem Booked.evicts (h : Booked m s) {k : Nat} {c : LogCall} (hc : s.calls[k]? = some c)
    {p : Post} {tries : Nat} (hp : c.progress = .evicting p tries) {cmd : Command}
    {rest : List Command} (hq : s.queue.items = cmd :: rest) :
    Booked m (s.advance k c (.retrying p tries)
      ({ s.queue with items := rest }.giveUp cmd).1
      ({ s.queue with items := rest }.giveUp cmd).2) := by
  have ho : c.progress ≠ .finished := by rw [hp]; simp
  have hno : Producer.retrying p tries ≠ .finished := by simp
  have hl : (s.advance k c (.retrying p tries) ({ s.queue with items := rest }.giveUp cmd).1
      ({ s.queue with items := rest }.giveUp cmd).2).ledger = s.ledger.evict :=
    s.ledger.afterCall_of_shorter k _ (by simp [hq])
  exact {
    fits := by
      rw [posts_advance hc, hl]
      show List.Forall₂ _ ({ s.queue with items := rest }.giveUp cmd).1.items _
      rw [Queue.items_giveUp]
      exact h.fits_tail hq
    once := fun j => by
      rw [openCount_advance_of_open hc ho hno, hl, length_advance, Ledger.places_evict]
      exact h.once j
    carries := h.carries_advance hc fun q hq => by rw [hp]; exact hq
    last := h.last_advance hc ho
    ended := fun j hj => h.ended_advance hc ho _ _ _ j (by rw [hl] at hj; exact hj)
    ordered := by rw [hl, callers_advance hc]; exact h.ordered
    kept := by
      rw [hl]
      exact s.ledger.course_evict_sublist.trans h.kept
    inHand := by rw [hl, posts_advance hc]; exact h.inHand
    counted := by rw [hl]; exact h.dropped_giveUp hq _ }

/-- The worker takes the command at the front. -/
theorem Booked.hand (h : Booked m s) {c : Command} {rest : List Command}
    (hq : s.queue.items = c :: rest) (w : Worker) (q : Queue) (notes : List Note)
    (hr : q.items = rest) (hd : (notes.foldl Metrics.hear s.metrics).dropped = s.metrics.dropped)
    (ho : s.worker.inHand = [])
    (hw : List.Forall₂ (fun k p => s.posts[k]? = some p) s.ledger.front w.inHand) :
    Booked m { s with
      worker := w, queue := q, metrics := notes.foldl Metrics.hear s.metrics
      ledger := s.ledger.afterWork s.queue q } := by
  have hl : s.ledger.afterWork s.queue q = s.ledger.hand := by
    simp [Ledger.afterWork, hr, hq]
  rw [hl]
  exact {
    fits := by
      show List.Forall₂ _ q.items _
      rw [hr]
      exact h.fits_tail hq
    once := fun j => by
      show openCount s.calls j + s.ledger.hand.places j = _
      rw [Ledger.places_hand]
      exact h.once j
    carries := h.carries
    last := h.last
    ended := h.ended
    ordered := h.ordered
    kept := by
      show s.ledger.hand.course.Sublist _
      rw [Ledger.course_hand]
      exact h.kept
    inHand := by
      have hin := h.inHand
      rw [ho, List.append_nil] at hin
      exact List.rel_append hin hw
    counted := by
      show wrapWord (notes.foldl Metrics.hear s.metrics).dropped = _
      rw [hd]
      exact h.counted }

/-- The worker takes a mark. -/
theorem Booked.takesMark (h : Booked m s) {c : Command} {rest : List Command}
    (hq : s.queue.items = c :: rest) (hc : ∀ p, c ≠ .post p) (w : Worker) (q : Queue)
    (hr : q.items = rest) (ho : s.worker.inHand = []) (hw : w.inHand = []) :
    Booked m { s with
      worker := w, queue := q, metrics := [].foldl Metrics.hear s.metrics
      ledger := s.ledger.afterWork s.queue q } := by
  refine h.hand hq w q [] hr rfl ho ?_
  rw [h.front_of_mark hq hc, hw]
  exact .nil

/-- The worker leaves the queue alone. -/
theorem Booked.rests (h : Booked m s) (w : Worker) (notes : List Note)
    (hd : (notes.foldl Metrics.hear s.metrics).dropped = s.metrics.dropped)
    (hw : w.inHand = s.worker.inHand) :
    Booked m { s with
      worker := w, queue := s.queue, metrics := notes.foldl Metrics.hear s.metrics
      ledger := s.ledger.afterWork s.queue s.queue } := by
  have hl : s.ledger.afterWork s.queue s.queue = s.ledger := by simp [Ledger.afterWork]
  rw [hl]
  exact h.frame rfl rfl rfl hd hw

theorem Booked.work (h : Booked m s) {w : Worker} {q : Queue} {notes : List Note}
    (hd : s.worker.Does s.queue w q notes) :
    Booked m { s with
      worker := w, queue := q, metrics := notes.foldl Metrics.hear s.metrics
      ledger := s.ledger.afterWork s.queue q } := by
  cases hd with
  | takes p rest notes hq hn hw =>
    have hd : (notes.foldl Metrics.hear s.metrics).dropped = s.metrics.dropped := by
      rcases hn with rfl | rfl <;> rfl
    obtain ⟨k, hk, hp⟩ := h.front_of_post hq
    refine h.hand hq _ _ _ rfl hd (Worker.inHand_of_taking hw) ?_
    rw [hk]
    exact .cons hp .nil
  | flushes ticket rest hq hw =>
    exact h.takesMark hq (fun _ e => by cases e) _ _ rfl (Worker.inHand_of_taking (.inl hw)) rfl
  | stops rest hq hw =>
    exact h.takesMark hq (fun _ e => by cases e) _ _ rfl (Worker.inHand_of_taking hw) rfl
  | answers ticket rest hq hw =>
    exact h.takesMark hq (fun _ e => by cases e) _ _ rfl (Worker.inHand_of_taking (.inr hw)) rfl
  | notices hq _ hw => exact h.rests _ [] rfl (Worker.inHand_of_taking (.inl hw)).symm
  | closes hq hw => exact h.rests _ _ rfl (Worker.inHand_of_taking (.inr hw)).symm

end Traffic

/-! ## 5. It always holds -/

namespace Ledger

theorem afterMark_of_same (l : Ledger) {q r : Queue} (h : r.items = q.items) :
    l.afterMark q r = l := by
  simp [afterMark, h]

theorem afterMark_of_concat (l : Ledger) {q r : Queue} {c : Command}
    (h : r.items = q.items ++ [c]) : l.afterMark q r = l.enterMark := by
  simp [afterMark, h]

end Ledger

namespace Traffic

variable {m : Metrics} {s t : Traffic}

/-- The worker calls the logger with the record it took. -/
theorem Booked.deliver (h : Booked m s) {p : Post} {isDraining : Bool}
    (hw : s.worker = .delivering p isDraining) (thrown : Option Payload) (es : List Event) :
    Booked m { s with
      worker := s.worker.delivered thrown, metrics := es.foldl Metrics.note s.metrics
      ledger := s.ledger.dispatch p } where
  fits := h.fits
  once := h.once
  carries := h.carries
  last := h.last
  ended := h.ended
  ordered := h.ordered
  kept := h.kept
  inHand := by
    have hin := h.inHand
    show List.Forall₂ _ s.ledger.handed
      ((s.ledger.dispatched ++ [p]) ++ (s.worker.delivered thrown).inHand)
    rw [Worker.inHand_delivered, List.append_nil]
    rwa [hw] at hin
  counted := by
    show wrapWord (es.foldl Metrics.note s.metrics).dropped = _
    rw [dropped_foldl_note]
    exact h.counted

theorem items_flushed (w : Worker) (q : Queue) (o : Outcome) :
    (w.flushed q o).2.items = q.items := by
  cases o <;> cases w <;> rfl

/-- **Each step keeps the ledger.** -/
theorem booked_step (h : Booked m s) (hs : Step s t) : Booked m t := by
  cases hs with
  | call caller p free => exact h.begin caller p free
  | produce k c next q notes hc hstep =>
    cases Producer.does_of_step? hstep with
    | goesOn _ p hp hn => exact h.goesOn hc hp hn
    | places p hp _ _ => exact h.places hc hp _
    | refuses p isLoud hp _ => exact h.refuses hc hp isLoud
    | evicts p tries cmd rest hp hq => exact h.evicts hc hp hq
  | lapse k c p hc hp =>
    rw [hp]
    exact h.refuses hc (by rw [hp]; rfl) true
  | work w q notes hstep => exact h.work (Worker.does_of_step? hstep)
  | deliver p isDraining thrown es hw => exact h.deliver hw thrown es
  | sweep o es hw =>
    refine h.frame (items_flushed _ _ o) rfl rfl (dropped_foldl_note es _) ?_
    rw [Worker.inHand_of_isFlushing hw]
    exact Worker.inHand_flushed _ _ o
  | flush onWorker => exact h.frame rfl rfl rfl rfl rfl
  | flushStep j f next q hf hstep =>
    cases Flusher.does_of_step? hstep with
    | goesOn _ => exact h.frame rfl rfl (s.ledger.afterMark_of_same rfl) rfl rfl
    | marks _ _ =>
      exact h.mark (c := .flush s.queue.tickets) trivial rfl rfl
        (s.ledger.afterMark_of_concat rfl) rfl rfl
  | flushAlone j o es hf => exact h.frame rfl rfl rfl (dropped_foldl_note es _) rfl
  | flushLapse j f logger limit hf => exact h.frame rfl rfl rfl rfl rfl
  | close onWorker => exact h.frame rfl rfl rfl rfl rfl
  | closeStep j c next q logger last said hc hstep =>
    cases Closer.does_of_step? hstep with
    | goesOn _ _ _ hq _ => exact h.frame hq rfl (s.ledger.afterMark_of_same hq) rfl rfl
    | stops => exact h.frame rfl rfl (s.ledger.afterMark_of_same rfl) rfl rfl
    | marks _ =>
      exact h.mark (c := .stop) trivial rfl rfl (s.ledger.afterMark_of_concat rfl) rfl rfl
  | closeLapse j c logger limit hc => exact h.frame rfl rfl rfl rfl rfl

/-- **The ledger is kept in whatever order things happen.** -/
theorem booked_of_reachable {capacity : Nat} {policy : Policy}
    (h : Reachable (start capacity policy m) s) : Booked m s := by
  induction h with
  | start => exact booked_start capacity policy m
  | step s t _ hs ih => exact booked_step ih hs

/-! ## 6. What follows -/

theorem Booked.nodup_entered (h : Booked m s) : s.ledger.entered.Nodup :=
  h.ordered.imp fun hjk => hjk.1

/-- The records of one caller keep their order, past the worker and through the queue. -/
theorem Booked.in_order (h : Booked m s) (i : Nat) :
    (s.ledger.course.filter fun k => s.callers[k]? = some i).Pairwise (· < ·) := by
  refine List.pairwise_filter.mpr ((h.ordered.sublist h.kept).imp fun {j k} hjk hj hk => ?_)
  refine hjk.2 ?_
  rw [of_decide_eq_true hj, of_decide_eq_true hk]

theorem Booked.places_of_call (h : Booked m s) {k : Nat} {c : LogCall}
    (hc : s.calls[k]? = some c) :
    s.ledger.places k = if c.progress = .finished then 1 else 0 := by
  have hk := h.once k
  rw [openCount_of_some hc, if_pos (List.getElem?_eq_some_iff.mp hc).1] at hk
  split at hk <;> simp_all

/-- A mark that is thrown out is not counted. -/
theorem dropped_of_mark_evicted {k : Nat} {c : LogCall} {p : Post} {tries : Nat}
    (hp : c.progress = .evicting p tries) {cmd : Command} {rest : List Command}
    (hq : s.queue.items = cmd :: rest) (hm : ∀ p, cmd ≠ .post p) {next : Producer} {q : Queue}
    {notes : List Note} (h : c.progress.step? s.queue = some (next, q, notes)) :
    q.items = rest ∧ (s.advance k c next q notes).metrics.dropped = s.metrics.dropped := by
  rw [hp] at h
  simp only [Producer.step?, Queue.take?, hq, Option.some.injEq, Prod.mk.injEq] at h
  obtain ⟨_, rfl, rfl⟩ := h
  refine ⟨Queue.items_giveUp _ cmd, ?_⟩
  cases cmd with
  | post p => exact absurd rfl (hm p)
  | flush ticket => rfl
  | stop => rfl

/-- **Records are conserved, and keep their order.** In every state that callers, the worker,
flushes and shutdowns can reach together:

* a record whose call has ended is in one of three places, and there once: in the queue, with the
  worker, among those counted as lost; one whose call is under way is in none;
* the queue and what the worker called the logger with are what the ledger says;
* what the worker was given, with what is queued behind it, is part of what was put into the
  queue, in that order and without repetition; so each caller's records keep their order;
* the metrics count the lost records and nothing else; a mark that is thrown out counts for
  nothing. -/
theorem records_conserved {capacity : Nat} {policy : Policy}
    (h : Reachable (start capacity policy m) s) :
    (∀ (k : Nat) (c : LogCall), s.calls[k]? = some c →
      s.ledger.queued.count k + s.ledger.handed.count k + s.ledger.lost.count k =
        if c.progress = .finished then 1 else 0) ∧
    List.Forall₂ (Bears s.posts) s.queue.items s.ledger.slots ∧
    List.Forall₂ (fun k p => s.posts[k]? = some p) s.ledger.handed
      (s.ledger.dispatched ++ s.worker.inHand) ∧
    (s.ledger.handed ++ s.ledger.queued).Sublist s.ledger.entered ∧
    s.ledger.entered.Nodup ∧
    (∀ i, ((s.ledger.handed ++ s.ledger.queued).filter fun k =>
      s.callers[k]? = some i).Pairwise (· < ·)) ∧
    wrapWord s.metrics.dropped = wrapWord (m.dropped + s.ledger.lost.length) ∧
    (∀ (k : Nat) (c : LogCall) (p : Post) (tries : Nat) (cmd : Command) (rest : List Command)
      (next : Producer) (q : Queue) (notes : List Note), s.calls[k]? = some c →
      c.progress = .evicting p tries → s.queue.items = cmd :: rest → (∀ p, cmd ≠ .post p) →
      c.progress.step? s.queue = some (next, q, notes) →
      q.items = rest ∧ (s.advance k c next q notes).metrics.dropped = s.metrics.dropped) := by
  have hb := booked_of_reachable h
  refine ⟨fun k c hc => hb.places_of_call hc, hb.fits, hb.inHand, hb.kept, hb.nodup_entered,
    hb.in_order, hb.counted, ?_⟩
  intro k c p tries cmd rest next q notes _ hp hq hm hstep
  exact dropped_of_mark_evicted hp hq hm hstep

/-- Two callers and room for one record: the second throws out what the first put there, and the
worker takes what is left. -/
def crowded : Traffic :=
  let first := ((start 1 .dropOldest {}).begin 0 ⟨.info, "first", {}⟩).produced 0 |>.produced 0
  let second := (first.begin 1 ⟨.info, "second", {}⟩).produced 1 |>.produced 1
  (second.produced 1 |>.produced 1).worked

theorem reachable_crowded : Reachable (start 1 .dropOldest {}) crowded :=
  have first := Reachable.step _ _ .start (.call _ 0 ⟨.info, "first", {}⟩ fun _ h => by cases h)
  have second := Reachable.step _ _ (first.produced 0 |>.produced 0)
    (.call _ 1 ⟨.info, "second", {}⟩ (by decide))
  (second.produced 1 |>.produced 1 |>.produced 1 |>.produced 1).worked

theorem records_conserved_crowded :
    crowded.ledger.handed = [1] ∧ crowded.ledger.lost = [0] ∧ crowded.queue.items = [] ∧
      wrapWord crowded.metrics.dropped = 1 ∧
      crowded.ledger.queued.count 0 + crowded.ledger.handed.count 0 +
        crowded.ledger.lost.count 0 = 1 := by
  obtain ⟨places, -, -, -, -, -, counted, -⟩ := records_conserved reachable_crowded
  exact ⟨rfl, rfl, rfl, counted, places 0 ⟨0, ⟨.info, "first", {}⟩, .finished⟩ rfl⟩

end Traffic

end Logworks.Delivery
