import Logworks.Proofs.Delivery.Traffic

/-!
# What becomes of a record

A call that logs a record touches the queue at most a few times. What became of the record is told
from what the queue held before and after each of these steps. This file fixes

* `Producer.Turn` -- the turns a call can take, by what it finds;
* `Fate` -- what became of a record; it follows the queue and decides nothing;
* `Fate.Kept` -- what a policy promises of a record: refused if and only if the queue was full when
  it was offered, or always placed, at the price of one command at the front, or placed for nothing;
* `Fate.Under` -- how far a call can have come if nobody else puts anything into the queue, and
  `Fate.Under.kept` -- **so the promise is kept when it ends**;
* `Fate.Under.losses_follow` -- what a step costs is what it lets be known as lost.

NOT here: the limit of a wait.
-/

namespace Logworks.Delivery

open Fanout

/-! ## 1. Turns of a call -/

/-- The policy makes a call wait for room. -/
def Policy.waits : Policy → Bool
  | .block | .blockWithin _ => true
  | .dropNewest | .dropOldest | .alertAndDrop => false

/-- The queue with one more command at the back. -/
def Queue.behind (q : Queue) (x : Command) : Queue := { q with items := q.items ++ [x] }

/-- The turns a call can take, by what it finds. -/
inductive Producer.Turn (q : Queue) : Producer → Producer → Queue → List Note → Prop where
  | enters (p : Post) (running : q.isRunning = true) : Turn q (.fresh p) (.admitted p) q []
  | dismissed (p : Post) (stopped : q.isRunning = false) :
      Turn q (.fresh p) .finished q [.lost p false]
  /-- There is room: it puts its record at the back. -/
  | places (p : Post) (room : q.items.length < q.capacity) :
      Turn q (.admitted p) .finished (q.behind (.post p)) [.depth (q.items.length + 1)]
  | refuses (p : Post) (isLoud : Bool) (full : q.capacity ≤ q.items.length)
      (policy : q.policy = .dropNewest ∨ q.policy = .alertAndDrop) :
      Turn q (.admitted p) .finished q [.lost p isLoud]
  | makesRoom (p : Post) (full : q.capacity ≤ q.items.length) (policy : q.policy = .dropOldest) :
      Turn q (.admitted p) (.evicting p mostTries) q []
  | waits (p : Post) (isLimited : Bool) (full : q.capacity ≤ q.items.length)
      (policy : q.policy.waits = true) : Turn q (.admitted p) (.waiting p isLimited) q []
  /-- It throws out the command at the front. -/
  | evicts (p : Post) (tries : Nat) (x : Command) (rest : List Command) (hq : q.items = x :: rest) :
      Turn q (.evicting p tries) (.retrying p tries) ({ q with items := rest }.giveUp x).1
        ({ q with items := rest }.giveUp x).2
  | overtaken (p : Post) (tries : Nat) (hq : q.items = []) :
      Turn q (.evicting p tries) (.retrying p tries) q []
  /-- There is room by now. -/
  | replaces (p : Post) (tries : Nat) (room : q.items.length < q.capacity) :
      Turn q (.retrying p tries) .finished (q.behind (.post p)) [.depth (q.items.length + 1)]
  | joins (p : Post) (isLimited : Bool) (room : q.items.length < q.capacity) :
      Turn q (.waiting p isLimited) .finished (q.behind (.post p)) [.depth (q.items.length + 1)]
  /-- Others took the room it made. -/
  | outrun (p : Post) (tries : Nat) (next : Producer) (notes : List Note)
      (full : q.capacity ≤ q.items.length) : Turn q (.retrying p tries) next q notes

namespace Producer

theorem room_of_offer? {q r : Queue} {c : Command} (h : q.offer? c = some r) :
    q.items.length < q.capacity ∧ r = q.behind c := by
  obtain ⟨room, rfl⟩ := Queue.offer?_eq_some h
  exact ⟨by simpa [Queue.hasRoom] using room, rfl⟩

theorem placed_behind (q : Queue) (p : Post) :
    placed (q.behind (.post p)) =
      (.finished, q.behind (.post p), [.depth (q.items.length + 1)]) := by
  simp [placed, Queue.behind]

theorem full_of_offer? {q : Queue} {c : Command} (h : q.offer? c = none) :
    q.capacity ≤ q.items.length := by
  simpa [Queue.hasRoom] using Queue.offer?_eq_none h

/-- **All turns a call can take.** -/
theorem turn_of_step? {q r : Queue} {c next : Producer} {notes : List Note}
    (h : c.step? q = some (next, r, notes)) : Turn q c next r notes := by
  cases c with
  | fresh p =>
    simp only [step?] at h
    split at h <;> cases h
    · exact .enters p ‹_›
    · exact .dismissed p (by simpa using ‹¬ q.isRunning = true›)
  | admitted p =>
    simp only [step?] at h
    split at h
    · obtain ⟨room, rfl⟩ := room_of_offer? ‹_›
      rw [placed_behind] at h
      cases h
      exact .places p room
    · have full := full_of_offer? ‹_›
      cases hp : q.policy <;> simp only [hp, overflow] at h <;> cases h
      · exact .refuses p false full (.inl hp)
      · exact .makesRoom p full hp
      · exact .waits p false full (by rw [hp]; rfl)
      · exact .waits p true full (by rw [hp]; rfl)
      · exact .refuses p true full (.inr hp)
  | evicting p tries =>
    simp only [step?] at h
    split at h
    · cases h
      exact .overtaken p tries (Queue.take?_eq_none ‹_›)
    · obtain ⟨rest, hq, rfl⟩ := Queue.take?_eq_some ‹_›
      cases h
      exact .evicts p tries _ rest hq
  | retrying p tries =>
    simp only [step?] at h
    split at h
    · obtain ⟨room, rfl⟩ := room_of_offer? ‹_›
      rw [placed_behind] at h
      cases h
      exact .replaces p tries room
    · have full := full_of_offer? ‹_›
      split at h <;> cases h <;> exact .outrun p _ _ _ full
  | waiting p isLimited =>
    simp only [step?, Option.map_eq_some_iff] at h
    obtain ⟨r', hr, h⟩ := h
    obtain ⟨room, rfl⟩ := room_of_offer? hr
    rw [placed_behind] at h
    cases h
    exact .joins p isLimited room
  | finished => cases h

end Producer

/-! ## 2. Fates -/

/-- What became of the record of a call, as the queue shows it. -/
structure Fate where
  post : Post
  /-- What the queue held when the record was first offered. -/
  found : List Command := []
  /-- For each command that was thrown out for it, what the queue held before and after. -/
  evictions : List (List Command × List Command) := []
  /-- What the queue held before the last step of the call, and after. -/
  before : List Command := []
  after : List Command := []
  /-- The record was given up itself. -/
  isLost : Bool := false

def Command.isPost : Command → Bool
  | post _ => true
  | flush _ | stop => false

/-- How many records a call has cost: its own, and those that were thrown out for it. -/
def Fate.losses (f : Fate) : Nat :=
  f.isLost.toNat + f.evictions.countP fun e => e.1.head?.any Command.isPost

/-- After a step of the call from `c` to `next`: what it did shows in the queue. -/
def Fate.follow (f : Fate) (c next : Producer) (q r : Queue) : Fate where
  post := f.post
  found := match c with
    | .admitted _ => q.items
    | _ => f.found
  evictions :=
    if r.items.length < q.items.length then f.evictions ++ [(q.items, r.items)] else f.evictions
  before := q.items
  after := r.items
  isLost := next = .finished ∧ r.items.length = q.items.length

/-! ## 3. What a policy promises -/

/-- What a policy promises of a record, before a queue of some room. -/
def Fate.Kept (f : Fate) (capacity : Nat) : Policy → Prop
  -- it is refused if and only if the queue was full, and the queue is left as it was
  | .dropNewest | .alertAndDrop =>
    f.evictions = [] ∧ f.before = f.found ∧ (f.isLost = true ↔ f.found.length = capacity) ∧
      f.after = if f.isLost then f.before else f.before ++ [.post f.post]
  | .block => f.isLost = false ∧ f.evictions = [] ∧ f.after = f.before ++ [.post f.post]
  -- one command at most is thrown out for it, from the front, and only if the queue was full
  | .dropOldest =>
    f.isLost = false ∧ f.after = f.before ++ [.post f.post] ∧ f.evictions.length ≤ 1 ∧
      (∀ e ∈ f.evictions, ∃ x, e.1 = x :: e.2) ∧
      (f.evictions ≠ [] → f.found.length = capacity)
  | .blockWithin _ => True

/-- How far a call can have come that is the only one to put something into the queue. -/
inductive Fate.Under (q : Queue) (f : Fate) : Producer → Prop where
  | fresh (kept : f.evictions = []) : Under q f (.fresh f.post)
  | admitted (kept : f.evictions = []) : Under q f (.admitted f.post)
  | evicting (kept : f.evictions = []) (policy : q.policy = .dropOldest)
      (full : f.found.length = q.capacity) : Under q f (.evicting f.post mostTries)
  /-- There is room for it, and nobody else to take it. -/
  | retrying (few : f.evictions.length ≤ 1) (front : ∀ e ∈ f.evictions, ∃ x, e.1 = x :: e.2)
      (policy : q.policy = .dropOldest) (full : f.found.length = q.capacity)
      (room : q.items.length < q.capacity) : Under q f (.retrying f.post mostTries)
  | waiting (kept : f.evictions = []) (policy : q.policy.waits = true) (isLimited : Bool) :
      Under q f (.waiting f.post isLimited)

namespace Queue

@[simp] theorem capacity_giveUp (q : Queue) (c : Command) :
    (q.giveUp c).1.capacity = q.capacity := by
  cases c <;> rfl

@[simp] theorem policy_giveUp (q : Queue) (c : Command) : (q.giveUp c).1.policy = q.policy := by
  cases c <;> rfl

@[simp] theorem isRunning_giveUp (q : Queue) (c : Command) :
    (q.giveUp c).1.isRunning = q.isRunning := by
  cases c <;> rfl

@[simp] theorem items_behind (q : Queue) (x : Command) : (q.behind x).items = q.items ++ [x] := rfl

/-- The queue is the same but for what it holds, and that is no more than it has room for. -/
structure Like (q r : Queue) : Prop where
  capacity : r.capacity = q.capacity
  policy : r.policy = q.policy
  isRunning : r.isRunning = q.isRunning
  fits : r.items.length ≤ r.capacity

end Queue

/-! ## 4. One step of a call -/

namespace Fate

variable {f : Fate} {c next : Producer} {q r : Queue}

theorem evictions_follow_of_le (h : q.items.length ≤ r.items.length) :
    (f.follow c next q r).evictions = f.evictions :=
  if_neg (Nat.not_lt.mpr h)

theorem isLost_follow_of_ne (h : next ≠ .finished) : (f.follow c next q r).isLost = false :=
  decide_eq_false fun both => h both.1

theorem isLost_follow_behind (x : Command) : (f.follow c next q (q.behind x)).isLost = false :=
  decide_eq_false fun both => by simpa using both.2

theorem evictions_follow_behind (x : Command) :
    (f.follow c next q (q.behind x)).evictions = f.evictions :=
  evictions_follow_of_le (by simp)

theorem evictions_follow_giveUp {x : Command} {rest : List Command} (hq : q.items = x :: rest) :
    (f.follow c next q ({ q with items := rest }.giveUp x).1).evictions =
      f.evictions ++ [(x :: rest, rest)] := by
  have shrinks : ({ q with items := rest }.giveUp x).1.items.length < q.items.length := by
    rw [Queue.items_giveUp, hq]
    exact Nat.lt_succ_self _
  refine (if_pos shrinks).trans ?_
  rw [Queue.items_giveUp, hq]

/-- A step of the only caller leaves the queue within its bounds. -/
theorem Under.like {notes : List Note} (h : Under q f c)
    (fits : q.items.length ≤ q.capacity) (t : Producer.Turn q c next r notes) : q.Like r := by
  have same : q.Like q := ⟨rfl, rfl, rfl, fits⟩
  have longer (x : Command) (room : q.items.length < q.capacity) : q.Like (q.behind x) :=
    ⟨rfl, rfl, rfl, by rw [Queue.items_behind, List.length_append]; exact room⟩
  cases t with
  | enters _ _ | dismissed _ _ | refuses _ _ _ _ | makesRoom _ _ _ | waits _ _ _ _
  | overtaken _ _ _ | outrun _ _ _ _ _ => exact same
  | places _ room | replaces _ _ room | joins _ _ room => exact longer _ room
  | evicts p tries x rest hq =>
    refine ⟨by simp, by simp, by simp, ?_⟩
    rw [hq] at fits
    simpa using Nat.le_of_succ_le fits

/-- **A call that goes on has come no further than the policy lets it.** -/
theorem Under.goesOn {notes : List Note} (h : Under q f c)
    (fits : q.items.length ≤ q.capacity) (some_room : 0 < q.capacity)
    (t : Producer.Turn q c next r notes) (on : next ≠ .finished) :
    Under r (f.follow c next q r) next := by
  cases h with
  | fresh kept =>
    cases t with
    | enters => exact .admitted ((evictions_follow_of_le (Nat.le_refl _)).trans kept)
    | dismissed => exact absurd rfl on
  | admitted kept =>
    have kept' : (f.follow (.admitted f.post) next q q).evictions = [] :=
      (evictions_follow_of_le (Nat.le_refl q.items.length)).trans kept
    cases t with
    | places | refuses => exact absurd rfl on
    | makesRoom _ full policy => exact .evicting kept' policy (Nat.le_antisymm fits full)
    | waits _ isLimited full policy => exact .waiting kept' policy isLimited
  | evicting kept policy full =>
    cases t with
    | evicts _ _ x rest hq =>
      have one : (f.follow (.evicting f.post mostTries) (.retrying f.post mostTries) q
          ({ q with items := rest }.giveUp x).1).evictions = [(x :: rest, rest)] := by
        rw [evictions_follow_giveUp hq, kept, List.nil_append]
      rw [hq] at fits
      refine .retrying ?_ ?_ (by rw [Queue.policy_giveUp]; exact policy)
        (by rw [Queue.capacity_giveUp]; exact full)
        (by rw [Queue.items_giveUp, Queue.capacity_giveUp]; exact fits)
      · rw [one]
        exact Nat.le_refl 1
      · intro e he
        rw [one, List.mem_singleton] at he
        exact ⟨x, by rw [he]⟩
    | overtaken _ _ hq =>
      have none : (f.follow (.evicting f.post mostTries) (.retrying f.post mostTries) q
          q).evictions = [] := (evictions_follow_of_le (Nat.le_refl q.items.length)).trans kept
      refine .retrying ?_ ?_ policy full (by rw [hq]; exact some_room)
      · rw [none]
        exact Nat.zero_le 1
      · intro e he
        rw [none] at he
        cases he
  | retrying few front policy full room =>
    cases t with
    | replaces => exact absurd rfl on
    | outrun _ _ _ _ crowded => exact absurd room (Nat.not_lt.mpr crowded)
  | waiting kept policy isLimited =>
    cases t with
    | joins => exact absurd rfl on

/-- A record that was placed when it was first offered has what any policy promises. -/
theorem kept_of_placed {capacity : Nat} (policy : Policy) (kept : f.evictions = [])
    (safe : f.isLost = false) (found : f.before = f.found)
    (after : f.after = f.before ++ [.post f.post]) (room : f.found.length < capacity) :
    f.Kept capacity policy := by
  cases policy with
  | dropNewest | alertAndDrop =>
    refine ⟨kept, found, iff_of_false (by simp [safe]) (Nat.ne_of_lt room), ?_⟩
    rw [safe, if_neg Bool.false_ne_true, after]
  | block => exact ⟨safe, kept, after⟩
  | dropOldest =>
    refine ⟨safe, after, by simp [kept], fun e he => ?_, fun some => absurd kept some⟩
    rw [kept] at he
    cases he
  | blockWithin limit => trivial

/-- **A call that has ended has kept what the policy promises.** -/
theorem Under.kept {notes : List Note} (h : Under q f c) (running : q.isRunning = true)
    (fits : q.items.length ≤ q.capacity) (t : Producer.Turn q c .finished r notes) :
    (f.follow c .finished q r).Kept q.capacity q.policy := by
  cases h with
  | fresh kept =>
    cases t with
    | dismissed _ stopped => rw [running] at stopped; cases stopped
  | admitted kept =>
    cases t with
    | places _ room =>
      exact kept_of_placed _ ((evictions_follow_behind _).trans kept) (isLost_follow_behind _) rfl
        rfl room
    | refuses _ isLoud full policy =>
      have none : (f.follow (.admitted f.post) .finished q q).evictions = [] :=
        (evictions_follow_of_le (Nat.le_refl _)).trans kept
      have lost : (f.follow (.admitted f.post) .finished q q).isLost = true := by simp [follow]
      have all := Nat.le_antisymm fits full
      rcases policy with policy | policy <;> rw [policy] <;>
        exact ⟨none, rfl, iff_of_true lost all, by rw [lost, if_pos rfl]; rfl⟩
  | evicting kept policy full => cases t
  | retrying few front policy full room =>
    cases t with
    | replaces =>
      rw [policy]
      refine ⟨isLost_follow_behind _, rfl, ?_, ?_, fun _ => full⟩
      · rw [evictions_follow_behind]
        exact few
      · rw [evictions_follow_behind]
        exact front
    | outrun _ _ _ _ crowded => exact absurd room (Nat.not_lt.mpr crowded)
  | waiting kept policy isLimited =>
    cases t with
    | joins =>
      have none : (f.follow (.waiting f.post isLimited) .finished q
          (q.behind (.post f.post))).evictions = [] := (evictions_follow_behind _).trans kept
      cases hp : q.policy with
      | block => exact ⟨isLost_follow_behind _, none, rfl⟩
      | blockWithin _ => trivial
      | dropNewest | dropOldest | alertAndDrop => rw [hp] at policy; cases policy

end Fate

/-- A record was lost. -/
def Note.isLoss : Note → Bool
  | .lost _ _ => true
  | .depth _ => false

theorem countP_isLoss_giveUp (q : Queue) (x : Command) :
    (q.giveUp x).2.countP Note.isLoss = x.isPost.toNat := by
  cases x <;> rfl

/-- **What a step of the call costs is what it lets be known as lost.** -/
theorem Fate.Under.losses_follow {f : Fate} {c next : Producer} {q r : Queue} {notes : List Note}
    (h : Under q f c) (running : q.isRunning = true) (safe : f.isLost = false)
    (t : Producer.Turn q c next r notes) :
    (f.follow c next q r).losses = f.losses + notes.countP Note.isLoss := by
  have still (c next : Producer) (on : next ≠ .finished) :
      (f.follow c next q q).losses = f.losses + 0 := by
    rw [losses, losses, isLost_follow_of_ne on, evictions_follow_of_le (Nat.le_refl _), safe,
      Nat.add_zero]
  have placed (c next : Producer) (x : Command) :
      (f.follow c next q (q.behind x)).losses = f.losses + 0 := by
    rw [losses, losses, isLost_follow_behind, evictions_follow_behind, safe, Nat.add_zero]
  cases t with
  | enters | makesRoom | waits | overtaken => exact still _ _ nofun
  | places | replaces | joins => exact placed _ _ _
  | dismissed _ stopped => rw [running] at stopped; cases stopped
  | refuses p isLoud full policy =>
    have lost : (f.follow (.admitted p) .finished q q).isLost = true := by simp [follow]
    rw [losses, losses, lost, evictions_follow_of_le (Nat.le_refl _), safe,
      List.countP_singleton, Bool.toNat_true, Bool.toNat_false, Nat.zero_add, Nat.add_comm]
    rfl
  | evicts p tries x rest hq =>
    have on : Producer.retrying p tries ≠ .finished := nofun
    rw [losses, losses, isLost_follow_of_ne on, evictions_follow_giveUp hq, safe,
      countP_isLoss_giveUp, List.countP_append, List.countP_singleton]
    cases x <;> rfl
  | outrun p tries next notes crowded =>
    cases h with
    | retrying few front policy full room => exact absurd room (Nat.not_lt.mpr crowded)

end Logworks.Delivery
