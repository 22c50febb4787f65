import Logworks.Proofs.Delivery.Draining

/-!
# What becomes of a mark

A flush puts a mark into the queue, among the records, and waits for an answer to its ticket. The
mark moves to the front as the commands before it leave. There the worker takes it, and flushes the
logger; or it answers at once, if it is emptying the queue; or a call that makes room throws the
mark out. This file fixes

* `Ticketed` -- **each ticket is in one place**: in the queue, with the worker, or answered;
* `Underway` -- a mark is in the queue with none of some records behind it, or the worker is
  flushing for it and they have left;
* `underway_step`, `underway_sweep` -- **a mark stays under way until it is answered, and when it is
  the records have left the queue**.
-/

namespace Logworks.Delivery

open Fanout

/-! ## 1. Tickets -/

/-- How often a ticket is in the queue or among the answers. -/
def Queue.marks (q : Queue) (T : Nat) : Nat :=
  q.items.count (.flush T) + (q.answers.map Prod.fst).count T

/-- The tickets that the worker is flushing for. -/
def Worker.holding : Worker → List Nat
  | answering ticket => [ticket]
  | idle | delivering _ _ | draining | closing | ended | crashed _ => []

theorem Queue.marks_answer (q : Queue) (T' : Nat) (a : Answer) (T : Nat) :
    (q.answer T' a).marks T = q.marks T + [T'].count T := by
  simp only [marks, answer, List.map_append, List.map_cons, List.map_nil, List.count_append]
  omega

/-- Putting a command at the back. -/
theorem Queue.marks_concat (q : Queue) (c : Command) (T : Nat) :
    ({ q with items := q.items ++ [c] } : Queue).marks T = q.marks T + [c].count (.flush T) := by
  simp only [marks, List.count_append]
  omega

/-- Taking the command at the front. -/
theorem Queue.marks_rest {q : Queue} {c : Command} {rest : List Command} (hq : q.items = c :: rest)
    (T : Nat) : q.marks T = ({ q with items := rest } : Queue).marks T + [c].count (.flush T) := by
  simp only [marks, hq, List.count_cons, List.count_nil]
  omega

theorem Queue.count_singleton_flush (T' T : Nat) :
    [Command.flush T'].count (.flush T) = [T'].count T := by
  simp [List.count_singleton]

/-- A mark that is thrown out is answered. -/
theorem Queue.marks_giveUp {q : Queue} {c : Command} {rest : List Command}
    (hq : q.items = c :: rest) (T : Nat) :
    ({ q with items := rest }.giveUp c).1.marks T = q.marks T := by
  rw [Queue.marks_rest hq]
  cases c with
  | flush T' => rw [giveUp, marks_answer, count_singleton_flush]
  | post p => rfl
  | stop => rfl

theorem Producer.marks_of_does {q r : Queue} {c next : Producer} {notes : List Note}
    (h : Does q c next r notes) (T : Nat) : r.marks T = q.marks T ∧ r.tickets = q.tickets := by
  cases h with
  | goesOn _ _ _ _ => exact ⟨rfl, rfl⟩
  | places p _ _ _ => exact ⟨q.marks_concat (.post p) T, rfl⟩
  | refuses _ _ _ _ => exact ⟨rfl, rfl⟩
  | evicts p tries cmd rest _ hq =>
    refine ⟨Queue.marks_giveUp hq T, ?_⟩
    cases cmd <;> rfl

theorem Worker.marks_of_does {q r : Queue} {w next : Worker} {notes : List Note}
    (h : Does q w next r notes) (T : Nat) :
    r.marks T + next.holding.count T = q.marks T + w.holding.count T ∧ r.tickets = q.tickets := by
  have taking : ∀ {w : Worker}, w = .idle ∨ w = .draining → w.holding = [] := by
    rintro w (rfl | rfl) <;> rfl
  cases h with
  | takes p rest notes hq _ hw =>
    rw [Queue.marks_rest hq, taking hw]
    exact ⟨rfl, rfl⟩
  | flushes T' rest hq hw =>
    rw [Queue.marks_rest hq, taking (.inl hw), Queue.count_singleton_flush]
    exact ⟨rfl, rfl⟩
  | stops rest hq hw =>
    rw [Queue.marks_rest hq, taking hw]
    exact ⟨rfl, rfl⟩
  | answers T' rest hq hw =>
    rw [Queue.marks_answer, Queue.marks_rest hq, taking (.inr hw), Queue.count_singleton_flush]
    exact ⟨rfl, rfl⟩
  | notices _ _ hw =>
    rw [taking (.inl hw)]
    exact ⟨rfl, rfl⟩
  | closes _ hw =>
    rw [taking (.inr hw)]
    exact ⟨rfl, rfl⟩

theorem Worker.holding_delivered (w : Worker) (thrown : Option Payload) :
    (w.delivered thrown).holding = [] := by
  cases thrown with
  | some e => rfl
  | none =>
    cases w with
    | delivering p isDraining => cases isDraining <;> rfl
    | idle | answering _ | draining | closing | ended | crashed _ => rfl

/-- A flush that is done is answered. -/
theorem Worker.marks_flushed (w : Worker) (q : Queue) (o : Outcome) (T : Nat) :
    (w.flushed q o).2.marks T + (w.flushed q o).1.holding.count T =
      q.marks T + w.holding.count T ∧ (w.flushed q o).2.tickets = q.tickets := by
  cases w with
  | answering T' =>
    have answered := q.marks_answer T' (answerOf o) T
    cases o <;> exact ⟨answered, rfl⟩
  | idle | delivering _ _ | draining | closing | ended | crashed _ => cases o <;> exact ⟨rfl, rfl⟩

/-- A new mark has a new ticket. -/
theorem Flusher.marks_of_does {q r : Queue} {f next : Flusher} (h : Does q f next r) :
    (r.tickets = q.tickets ∧ ∀ T, r.marks T = q.marks T) ∨
      (r.tickets = q.tickets + 1 ∧ ∀ T, r.marks T = q.marks T + [q.tickets].count T) := by
  cases h with
  | goesOn _ => exact .inl ⟨rfl, fun _ => rfl⟩
  | marks _ _ =>
    refine .inr ⟨rfl, fun T => ?_⟩
    rw [← Queue.count_singleton_flush]
    exact q.marks_concat (.flush q.tickets) T

theorem Closer.marks_of_turn {q r : Queue} {w : Worker} {c next : Closer} (h : Turn w q c next r)
    (T : Nat) : r.marks T = q.marks T ∧ r.tickets = q.tickets := by
  cases h with
  | marks _ => exact ⟨q.marks_concat .stop T, rfl⟩
  | dismissed _ _ | refused _ | takes _ | stops | joins _ | mourns _ _ | parts _ => exact ⟨rfl, rfl⟩

namespace Traffic

variable {m : Metrics} {s t : Traffic}

/-- **Each ticket that was given out is in one place**: in the queue, with the worker, or
answered. -/
def Ticketed (s : Traffic) : Prop :=
  ∀ T, s.queue.marks T + s.worker.holding.count T = if T < s.queue.tickets then 1 else 0

theorem ticketed_start (capacity : Nat) (policy : Policy) (m : Metrics) :
    Ticketed (start capacity policy m) := fun _ => rfl

theorem Ticketed.frame (h : Ticketed s)
    (hm : ∀ T, t.queue.marks T + t.worker.holding.count T =
      s.queue.marks T + s.worker.holding.count T) (ht : t.queue.tickets = s.queue.tickets) :
    Ticketed t := by
  intro T
  rw [hm, ht]
  exact h T

theorem ticketed_step (h : Ticketed s) (hs : Step s t) : Ticketed t := by
  cases hs with
  | produce k c next q notes hc hstep =>
    have moves := Producer.marks_of_does (Producer.does_of_step? hstep)
    refine h.frame (fun T => ?_) (moves 0).2
    show q.marks T + s.worker.holding.count T = _
    rw [(moves T).1]
  | work w q notes hstep =>
    have moves := Worker.marks_of_does (Worker.does_of_step? hstep)
    exact h.frame (fun T => (moves T).1) (moves 0).2
  | deliver p isDraining thrown es hw =>
    refine h.frame (fun T => ?_) rfl
    show _ + (s.worker.delivered thrown).holding.count T = _
    rw [Worker.holding_delivered, hw]
    rfl
  | sweep o es hw =>
    have moves := Worker.marks_flushed s.worker s.queue o
    exact h.frame (fun T => (moves T).1) (moves 0).2
  | flushStep j f next q hf hstep =>
    rcases Flusher.marks_of_does (Flusher.does_of_step? hstep) with ⟨et, em⟩ | ⟨et, em⟩
    · refine h.frame (fun T => ?_) et
      show q.marks T + _ = _
      rw [em]
    · intro T
      have hT := h T
      show q.marks T + s.worker.holding.count T = if T < q.tickets then 1 else 0
      rw [em, et, List.count_singleton]
      by_cases e : s.queue.tickets = T
      · subst e
        have hlt : s.queue.tickets < s.queue.tickets + 1 := Nat.lt_succ_self _
        rw [if_neg (Nat.lt_irrefl _)] at hT
        rw [if_pos hlt, beq_self_eq_true, if_pos rfl]
        omega
      · have same : (T < s.queue.tickets + 1) ↔ T < s.queue.tickets := by omega
        simp only [beq_iff_eq, if_neg e, same]
        omega
  | closeStep j c next q logger last said hc hstep =>
    have moves := Closer.marks_of_turn (Closer.turn_of_step? hstep)
    refine h.frame (fun T => ?_) (moves 0).2
    show q.marks T + s.worker.holding.count T = _
    rw [(moves T).1]
  | call _ _ _ => exact h
  | lapse _ _ _ _ _ => exact h
  | flush _ => exact h
  | flushAlone _ _ _ _ => exact h
  | flushLapse _ _ _ _ _ => exact h
  | close _ => exact h
  | closeLapse _ _ _ _ _ => exact h

theorem ticketed_of_reachable {capacity : Nat} {policy : Policy}
    (h : Reachable (start capacity policy m) s) : Ticketed s := by
  induction h with
  | start => exact ticketed_start capacity policy m
  | step s t _ hs ih => exact ticketed_step ih hs

theorem Ticketed.le_one (h : Ticketed s) (T : Nat) :
    s.queue.items.count (.flush T) + (s.queue.answers.map Prod.fst).count T +
      s.worker.holding.count T ≤ 1 := by
  have hT := h T
  rw [Queue.marks] at hT
  split at hT <;> omega

end Traffic

/-! ## 2. Answers -/

theorem Queue.lookup_eq_none {q : Queue} {T : Nat} (h : (q.answers.map Prod.fst).count T = 0) :
    q.answers.lookup T = none := by
  refine List.lookup_eq_none_iff.mpr fun p hp => ?_
  have hno := List.count_eq_zero.mp h
  have hne : T ≠ p.1 := by
    rintro rfl
    exact hno (List.mem_map_of_mem hp)
  simpa using hne

theorem Queue.lookup_answer {q : Queue} {T : Nat} (h : q.answers.lookup T = none) (a : Answer) :
    (q.answer T a).answers.lookup T = some a := by
  simp [answer, List.lookup_append, h]

/-- An answer that was given stays. -/
theorem Traffic.answers_step {s t : Traffic} (hs : Step s t) :
    s.queue.answers <+: t.queue.answers := by
  cases hs with
  | produce k c next q notes hc hstep =>
    show s.queue.answers <+: q.answers
    cases Producer.does_of_step? hstep with
    | goesOn _ _ _ _ => exact List.prefix_rfl
    | places _ _ _ _ => exact List.prefix_rfl
    | refuses _ _ _ _ => exact List.prefix_rfl
    | evicts p tries cmd rest _ hq =>
      cases cmd with
      | flush _ => exact List.prefix_append _ _
      | post _ => exact List.prefix_rfl
      | stop => exact List.prefix_rfl
  | work w q notes hstep =>
    cases Worker.does_of_step? hstep with
    | answers _ _ _ _ => exact List.prefix_append _ _
    | takes _ _ _ _ _ _ | flushes _ _ _ _ | stops _ _ _ | notices _ _ _ | closes _ _ =>
      exact List.prefix_rfl
  | sweep o es _ =>
    show s.queue.answers <+: (s.worker.flushed s.queue o).2.answers
    cases hw : s.worker with
    | answering T => cases o <;> exact List.prefix_append _ _
    | idle | delivering _ _ | draining | closing | ended | crashed _ =>
      cases o <;> exact List.prefix_rfl
  | flushStep j f next q hf hstep =>
    cases Flusher.does_of_step? hstep <;> exact List.prefix_rfl
  | closeStep j c next q logger last said hc hstep =>
    cases Closer.turn_of_step? hstep <;> exact List.prefix_rfl
  | call _ _ _ => exact List.prefix_rfl
  | lapse _ _ _ _ _ => exact List.prefix_rfl
  | deliver _ _ _ _ _ => exact List.prefix_rfl
  | flush _ => exact List.prefix_rfl
  | flushAlone _ _ _ _ => exact List.prefix_rfl
  | flushLapse _ _ _ _ _ => exact List.prefix_rfl
  | close _ => exact List.prefix_rfl
  | closeLapse _ _ _ _ _ => exact List.prefix_rfl

theorem Traffic.told_step {s t : Traffic} (hs : Step s t) {T : Nat} {a : Answer}
    (h : s.queue.answers.lookup T = some a) : t.queue.answers.lookup T = some a := by
  obtain ⟨more, e⟩ := answers_step hs
  rw [← e, List.lookup_append, h]
  rfl

/-! ## 3. A mark under way -/

namespace Ledger

theorem slots_afterCall_of_refused (l : Ledger) (k : Nat) (q : Queue) :
    (l.afterCall k q q .finished).slots = l.slots := by
  rw [l.afterCall_of_refused]
  rfl

theorem slots_afterWork_of_same (l : Ledger) {q r : Queue} (h : r.items = q.items) :
    (l.afterWork q r).slots = l.slots := by
  simp [afterWork, h]

theorem slots_afterWork_of_cons (l : Ledger) {q r : Queue} {c : Command}
    (h : q.items = c :: r.items) : (l.afterWork q r).slots = l.slots.tail := by
  simp [afterWork, hand, h]

theorem slots_afterMark_of_same (l : Ledger) {q r : Queue} (h : r.items = q.items) :
    (l.afterMark q r).slots = l.slots := by
  rw [l.afterMark_of_same h]

theorem slots_afterMark_of_concat (l : Ledger) {q r : Queue} {c : Command}
    (h : r.items = q.items ++ [c]) : (l.afterMark q r).slots = l.slots ++ [none] := by
  rw [l.afterMark_of_concat h]
  rfl

end Ledger

namespace Traffic

variable {m : Metrics} {s t : Traffic} {E : List Nat} {T : Nat}

/-- **A mark on its way to an answer**, with none of the records `E` behind it. -/
inductive Underway (E : List Nat) (T : Nat) (s : Traffic) : Prop where
  | queued (n : Nat) (hn : s.queue.items[n]? = some (.flush T))
      (ahead : ∀ k ∈ E, some k ∉ s.ledger.slots.drop n) : Underway E T s
  /-- The worker flushes the logger for it; the records have left the queue. -/
  | taken (hw : s.worker = .answering T) (left : ∀ k ∈ E, s.Left k) : Underway E T s

/-- A mark that is under way has no answer. -/
theorem Underway.lookup (h : Underway E T s) (ht : Ticketed s) :
    s.queue.answers.lookup T = none := by
  have hone := ht.le_one T
  refine Queue.lookup_eq_none ?_
  cases h with
  | queued n hn _ =>
    have hpos := List.count_pos_iff.mpr (List.mem_of_getElem? hn)
    omega
  | taken hw _ =>
    rw [hw, Worker.holding, List.count_singleton_self] at hone
    omega

/-- A step that leaves the commands in the queue alone. -/
theorem Underway.frame (h : Underway E T s) (hg : s.ledger.Grows t.ledger)
    (hk : s.worker.isFlushing = true → t.worker = s.worker)
    (hi : t.queue.items = s.queue.items) (hl : t.ledger.slots = s.ledger.slots) :
    Underway E T t := by
  cases h with
  | queued n hn ahead => exact .queued n (hi ▸ hn) (hl ▸ ahead)
  | taken hw left =>
    have still : t.worker = .answering T := (hk (by rw [hw]; rfl)).trans hw
    exact .taken still fun k hkE => (left k hkE).mono hg

/-- A command goes in behind it. -/
theorem Underway.concat (h : Underway E T s) (hb : Booked m s) (hg : s.ledger.Grows t.ledger)
    (hk : s.worker.isFlushing = true → t.worker = s.worker) {c : Command} {slot : Option Nat}
    (hi : t.queue.items = s.queue.items ++ [c]) (hl : t.ledger.slots = s.ledger.slots ++ [slot])
    (fresh : ∀ k ∈ E, slot ≠ some k) : Underway E T t := by
  cases h with
  | queued n hn ahead =>
    have hlt := (List.getElem?_eq_some_iff.mp hn).1
    have hlen := hb.fits.length_eq
    refine .queued n ?_ fun k hkE hm => ?_
    · rw [hi, List.getElem?_append_left hlt]
      exact hn
    · rw [hl, List.drop_append_of_le_length (by omega)] at hm
      rcases List.mem_append.mp hm with hm | hm
      · exact ahead k hkE hm
      · exact fresh k hkE (List.mem_singleton.mp hm).symm
  | taken hw left =>
    have still : t.worker = .answering T := (hk (by rw [hw]; rfl)).trans hw
    exact .taken still fun k hkE => (left k hkE).mono hg

/-- **The command at the front leaves**: it is another one, or it is the mark, and the records have
left before it. -/
theorem Underway.pop (h : Underway E T s) (hb : Booked m t)
    (hE : ∀ k ∈ E, k ∈ t.ledger.entered) (hg : s.ledger.Grows t.ledger)
    (hk : s.worker.isFlushing = true → t.worker = s.worker) {c : Command} {rest : List Command}
    (hq : s.queue.items = c :: rest) (hi : t.queue.items = rest)
    (hl : t.ledger.slots = s.ledger.slots.tail) :
    Underway E T t ∨ (c = .flush T ∧ ∀ k ∈ E, t.Left k) := by
  cases h with
  | taken hw left =>
    have still : t.worker = .answering T := (hk (by rw [hw]; rfl)).trans hw
    exact .inl (.taken still fun k hkE => (left k hkE).mono hg)
  | queued n hn ahead =>
    cases n with
    | zero =>
      rw [hq] at hn
      refine .inr ⟨Option.some.inj hn, fun k hkE => hb.left_of_not_queued (hE k hkE) fun hm => ?_⟩
      obtain ⟨slot, hslot, e⟩ := List.mem_filterMap.mp hm
      obtain rfl : slot = some k := e
      rw [hl] at hslot
      exact ahead k hkE (List.mem_of_mem_tail hslot)
    | succ n =>
      refine .inl (.queued n ?_ fun k hkE hm => ?_)
      · rw [hq] at hn
        rw [hi]
        exact hn
      · rw [hl, List.drop_tail] at hm
        exact ahead k hkE hm

/-- What can end a mark's way but the end of its flush. -/
inductive Unflushed (T : Nat) (s t : Traffic) : Prop where
  /-- A worker that empties the queue has come to it. -/
  | emptied (hw : t.worker = .draining)
      (ha : t.queue.answers.lookup T = some (.flushed (.ok ()))) : Unflushed T s t
  /-- A call that makes room has thrown it out. -/
  | thrownOut (hc : ∃ c ∈ s.calls, c.progress.isMakingRoom = true)
      (ha : t.queue.answers.lookup T = some .released) : Unflushed T s t

/-- A step of a call. -/
theorem Underway.produce (h : Underway E T s) (hb : Booked m s) (ht : Ticketed s)
    (hE : ∀ k ∈ E, k ∈ s.ledger.entered) {k : Nat} {c : LogCall} {next : Producer} {q : Queue}
    {notes : List Note} (hc : s.calls[k]? = some c)
    (hstep : c.progress.step? s.queue = some (next, q, notes)) :
    Underway E T (s.advance k c next q notes) ∨ ((∀ j ∈ E, (s.advance k c next q notes).Left j) ∧
      Unflushed T s (s.advance k c next q notes)) := by
  have step : Step s (s.advance k c next q notes) := .produce s k c next q notes hc hstep
  have grows := ledger_step step
  have none_yet := h.lookup ht
  cases Producer.does_of_step? hstep with
  | goesOn _ p _ hn =>
    have same := s.ledger.afterCall_of_goesOn k s.queue (Producer.ne_finished_of_post? hn)
    exact .inl (h.frame grows (fun _ => rfl) rfl (congrArg Ledger.slots same))
  | refuses p isLoud _ _ =>
    exact .inl (h.frame grows (fun _ => rfl) rfl (s.ledger.slots_afterCall_of_refused k s.queue))
  | places p hp _ _ =>
    have entered : s.ledger.afterCall k s.queue
        { s.queue with items := s.queue.items ++ [.post p] } .finished = s.ledger.enter k :=
      s.ledger.afterCall_of_longer k _ (by simp)
    refine .inl (h.concat hb grows (fun _ => rfl) rfl (congrArg Ledger.slots entered) ?_)
    rintro j hj ⟨⟩
    exact hb.not_entered hc (Producer.ne_finished_of_post? hp) (hE k hj)
  | evicts p tries cmd rest hp hq =>
    have evicted := s.ledger.afterCall_of_shorter (q := s.queue) (r := ({ s.queue with items := rest
      }.giveUp cmd).1) k (.retrying p tries) (by simp [hq])
    have hEt := fun j hj => grows.entered.subset (hE j hj)
    rcases h.pop (booked_step hb step) hEt grows (fun _ => rfl) hq (Queue.items_giveUp _ _)
      (congrArg Ledger.slots evicted) with still | ⟨rfl, left⟩
    · exact .inl still
    · refine .inr ⟨left, .thrownOut ⟨c, List.mem_of_getElem? hc, by rw [hp]; rfl⟩ ?_⟩
      exact Queue.lookup_answer (q := { s.queue with items := rest }) none_yet .released

/-- A step of the worker. -/
theorem Underway.work (h : Underway E T s) (hb : Booked m s) (ht : Ticketed s)
    (hE : ∀ k ∈ E, k ∈ s.ledger.entered) (hs : Step s t) {notes : List Note}
    (hstep : s.worker.step? s.queue = some (t.worker, t.queue, notes))
    (hl : t.ledger = s.ledger.afterWork s.queue t.queue) :
    Underway E T t ∨ ((∀ j ∈ E, t.Left j) ∧ Unflushed T s t) := by
  have grows := ledger_step hs
  have hEt := fun j hj => grows.entered.subset (hE j hj)
  have idle : s.worker.isFlushing = true → t.worker = s.worker := by
    intro hf
    rw [Worker.step?_of_isFlushing hf] at hstep
    cases hstep
  have front : ∀ {c : Command}, s.queue.items = c :: t.queue.items →
      Underway E T t ∨ (c = .flush T ∧ ∀ k ∈ E, t.Left k) := by
    intro c hq
    refine h.pop (booked_step hb hs) hEt grows idle hq rfl ?_
    rw [hl]
    exact s.ledger.slots_afterWork_of_cons hq
  have rests : t.queue.items = s.queue.items → Underway E T t := by
    intro hi
    refine h.frame grows idle hi ?_
    rw [hl]
    exact s.ledger.slots_afterWork_of_same hi
  have does := Worker.does_of_step? hstep
  generalize hw : t.worker = w at does
  generalize hr : t.queue = r at does front rests
  cases does with
  | takes p rest notes hq _ _ =>
    rcases front hq with still | ⟨wrong, _⟩
    · exact .inl still
    · cases wrong
  | stops rest hq _ =>
    rcases front hq with still | ⟨wrong, _⟩
    · exact .inl still
    · cases wrong
  | flushes T' rest hq _ =>
    rcases front hq with still | ⟨e, left⟩
    · exact .inl still
    · cases e
      exact .inl (.taken hw left)
  | answers T' rest hq _ =>
    rcases front hq with still | ⟨e, left⟩
    · exact .inl still
    · cases e
      refine .inr ⟨left, .emptied hw ?_⟩
      rw [hr]
      exact Queue.lookup_answer (q := { s.queue with items := rest }) (h.lookup ht) _
  | notices _ _ _ => exact .inl (rests rfl)
  | closes _ _ => exact .inl (rests rfl)

/-- **A mark stays under way until it is answered**, and when it is the records have left: a step by
which no flush of the worker ends. -/
theorem underway_step (h : Underway E T s) (hb : Booked m s) (ht : Ticketed s)
    (hE : ∀ k ∈ E, k ∈ s.ledger.entered) (hs : Step s t)
    (hk : s.worker.isFlushing = true → t.worker = s.worker) :
    Underway E T t ∨ ((∀ k ∈ E, t.Left k) ∧ Unflushed T s t) := by
  have grows := ledger_step hs
  have hs' := hs
  cases hs with
  | produce k c next q notes hc hstep => exact h.produce hb ht hE hc hstep
  | work w q notes hstep => exact h.work hb ht hE hs' hstep rfl
  | lapse k c p hc hp =>
    refine .inl (h.frame grows (fun _ => rfl) rfl ?_)
    show (s.ledger.afterCall k s.queue s.queue c.progress.expire.1).slots = _
    rw [hp]
    exact s.ledger.slots_afterCall_of_refused k s.queue
  | sweep o es hf => exact absurd (hk hf) (Worker.flushed_ne hf s.queue o)
  | flushStep j f next q hf hstep =>
    cases Flusher.does_of_step? hstep with
    | goesOn _ => exact .inl (h.frame grows hk rfl (s.ledger.slots_afterMark_of_same rfl))
    | marks _ _ =>
      exact .inl (h.concat hb grows hk rfl (s.ledger.slots_afterMark_of_concat rfl) nofun)
  | closeStep j c next q logger last said hc hstep =>
    cases Closer.does_of_step? hstep with
    | goesOn _ _ _ hi _ => exact .inl (h.frame grows hk hi (s.ledger.slots_afterMark_of_same hi))
    | stops => exact .inl (h.frame grows hk rfl (s.ledger.slots_afterMark_of_same rfl))
    | marks _ =>
      exact .inl (h.concat hb grows hk rfl (s.ledger.slots_afterMark_of_concat rfl) nofun)
  | call _ _ _ => exact .inl (h.frame grows hk rfl rfl)
  | deliver _ _ _ _ _ => exact .inl (h.frame grows hk rfl rfl)
  | flush _ => exact .inl (h.frame grows hk rfl rfl)
  | flushAlone _ _ _ _ => exact .inl (h.frame grows hk rfl rfl)
  | flushLapse _ _ _ _ _ => exact .inl (h.frame grows hk rfl rfl)
  | close _ => exact .inl (h.frame grows hk rfl rfl)
  | closeLapse _ _ _ _ _ => exact .inl (h.frame grows hk rfl rfl)

/-- The worker is done with a flush: it was the one asked for by the mark, or the mark is on its way
still. -/
theorem underway_sweep (h : Underway E T s) (ht : Ticketed s) (o : Outcome)
    (hq : t.queue = (s.worker.flushed s.queue o).2) (hl : t.ledger = s.ledger) :
    Underway E T t ∨ ((∀ k ∈ E, t.Left k) ∧
      t.queue.answers.lookup T = some (Worker.answerOf o)) := by
  have none_yet := h.lookup ht
  cases h with
  | queued n hn ahead =>
    refine .inl (.queued n ?_ ?_)
    · rw [hq, items_flushed]
      exact hn
    · rw [hl]
      exact ahead
  | taken hw left =>
    refine .inr ⟨fun k hkE => ?_, ?_⟩
    · rw [Left, hl]
      exact left k hkE
    · have answered := Queue.lookup_answer none_yet (Worker.answerOf o)
      rw [hq, hw]
      cases o <;> exact answered

end Traffic

end Logworks.Delivery
