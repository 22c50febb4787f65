import Logworks.Proofs.Delivery.Fates
import Mathlib.Algebra.GroupWithZero.Nat

/-!
# What a full queue loses

One caller logs record after record and nobody else puts anything into the queue, while the worker
takes commands from the front whenever it likes, also between two touches of the queue by one call.
What is lost then is what the policy says and no more. This file fixes

* `Lane` -- the queue before one caller, with the fates of his records;
* `Lane.Sound` -- **the invariant** of any interleaving, and `Lane.Stalled`, of those in which the
  worker takes nothing;
* `losses_as_promised` -- the main fact.

NOT here: levels the logger turns away, which no call of these has, and the limit of a wait.
-/

namespace Logworks.Delivery

open Fanout

/-! ## 1. One caller -/

/-- The call has made room. -/
def Producer.hasEvicted : Producer → Bool
  | retrying _ _ => true
  | fresh _ | admitted _ | evicting _ _ | waiting _ _ | finished => false

/-- The call makes room, or has made it. -/
def Producer.isEvicting : Producer → Bool
  | evicting _ _ | retrying _ _ => true
  | fresh _ | admitted _ | waiting _ _ | finished => false

/-- The queue before one caller. -/
structure Lane where
  queue : Queue
  /-- What the caller has yet to log. -/
  ahead : List Post := []
  metrics : Metrics := {}
  /-- The call under way. -/
  current : Option (Producer × Fate) := none
  /-- The calls that have ended, the first one first. -/
  fates : List Fate := []

/-- Whose turn it is. -/
inductive Move where
  /-- The caller takes one step of the call under way, or begins the next one. -/
  | own
  /-- The worker takes the command at the front. -/
  | take
  /-- The logger counts something on the way to the sinks. -/
  | count (e : Event)
  deriving DecidableEq

namespace Lane

def start (capacity : Nat) (policy : Policy) (items : List Command) (posts : List Post)
    (m : Metrics) : Lane where
  queue := { capacity, policy, items }
  ahead := posts
  metrics := m

/-- The call under way, which was at `c`, has come to `next`. -/
def advance (s : Lane) (c : Producer) (f : Fate) (next : Producer) (q : Queue)
    (notes : List Note) : Lane :=
  let f := f.follow c next s.queue q
  let s := { s with queue := q, metrics := notes.foldl Metrics.hear s.metrics }
  if next = .finished then { s with current := none, fates := s.fates ++ [f] }
  else { s with current := some (next, f) }

def own (s : Lane) : Lane :=
  match s.current with
  | none =>
    match s.ahead with
    | [] => s
    | p :: ps => { s with ahead := ps, current := some (.fresh p, { post := p }) }
  | some (c, f) =>
    match c.step? s.queue with
    | none => s
    | some (next, q, notes) => s.advance c f next q notes

def step (s : Lane) : Move → Lane
  | .own => s.own
  | .take =>
    match s.queue.take? with
    | none => s
    | some (_, q) => { s with queue := q, metrics := s.metrics.hear (.depth q.items.length) }
  | .count e => { s with metrics := s.metrics.note e }

def run (s : Lane) (moves : List Move) : Lane := moves.foldl step s

/-- All calls that were begun, the one under way last. -/
def told (s : Lane) : List Fate := s.fates ++ (s.current.map Prod.snd).toList

/-- The records that were lost so far. -/
def losses (s : Lane) : Nat := (s.told.map Fate.losses).sum

/-- Every call has ended. -/
def isDone (s : Lane) : Prop := s.current = none ∧ s.ahead = []

end Lane

/-! ## 2. Any interleaving -/

theorem hear_dropped (m : Metrics) (notes : List Note) :
    wrapWord (notes.foldl Metrics.hear m).dropped =
      wrapWord (m.dropped + notes.countP Note.isLoss) := by
  induction notes generalizing m with
  | nil => rfl
  | cons n notes ih =>
    rw [List.foldl_cons, ih, List.countP_cons]
    cases n with
    | depth k => rfl
    | lost p isLoud =>
      rw [Nat.add_comm (notes.countP _), ← Nat.add_assoc]
      exact wrapWord_wrapWord_add _ _

theorem note_dropped (m : Metrics) (e : Event) : (m.note e).dropped = m.dropped := by
  cases e <;> rfl

namespace Lane

variable {capacity : Nat} {policy : Policy} {posts : List Post} {m : Metrics} {s : Lane}

/-- What always holds before one caller who has these records to log. -/
structure Sound (capacity : Nat) (policy : Policy) (posts : List Post) (m : Metrics) (s : Lane) :
    Prop where
  room : s.queue.capacity = capacity
  rule : s.queue.policy = policy
  running : s.queue.isRunning = true
  fits : s.queue.items.length ≤ s.queue.capacity
  kept : ∀ f ∈ s.fates, f.Kept capacity policy
  under : ∀ c f, s.current = some (c, f) → f.Under s.queue c ∧ f.isLost = false
  order : s.told.map Fate.post ++ s.ahead = posts
  counted : wrapWord s.metrics.dropped = wrapWord (m.dropped + s.losses)

theorem sound_start (items : List Command) (fits : items.length ≤ capacity) :
    Sound capacity policy posts m (start capacity policy items posts m) where
  room := rfl
  rule := rfl
  running := rfl
  fits := fits
  kept _ hf := absurd hf List.not_mem_nil
  under _ _ h := by cases h
  order := rfl
  counted := rfl

@[simp] theorem told_of_none (h : s.current = none) : s.told = s.fates := by
  rw [told, h]
  exact List.append_nil _

theorem told_of_some {c : Producer} {f : Fate} (h : s.current = some (c, f)) :
    s.told = s.fates ++ [f] := by
  rw [told, h]
  rfl

section Advance

variable (s : Lane) (c : Producer) (f : Fate) (next : Producer) (q : Queue) (notes : List Note)

@[simp] theorem queue_advance : (s.advance c f next q notes).queue = q := by
  rw [advance]
  split <;> rfl

@[simp] theorem ahead_advance : (s.advance c f next q notes).ahead = s.ahead := by
  rw [advance]
  split <;> rfl

@[simp] theorem metrics_advance :
    (s.advance c f next q notes).metrics = notes.foldl Metrics.hear s.metrics := by
  rw [advance]
  split <;> rfl

@[simp] theorem told_advance :
    (s.advance c f next q notes).told = s.fates ++ [f.follow c next s.queue q] := by
  rw [advance]
  split
  · exact List.append_nil _
  · rfl

end Advance

theorem Sound.losses_advance (h : Sound capacity policy posts m s) {c next : Producer} {f : Fate}
    {q : Queue} {notes : List Note} (now : s.current = some (c, f))
    (t : Producer.Turn s.queue c next q notes) :
    (s.advance c f next q notes).losses = s.losses + notes.countP Note.isLoss := by
  obtain ⟨under, safe⟩ := h.under c f now
  rw [losses, losses, told_advance, told_of_some now, List.map_append, List.map_append,
    List.sum_append, List.sum_append, List.map_singleton, List.map_singleton, List.sum_singleton,
    List.sum_singleton, under.losses_follow h.running safe t, Nat.add_assoc]

/-- **A step of the call under way keeps the invariant.** -/
theorem Sound.advance (h : Sound capacity policy posts m s) (some_room : 0 < capacity)
    {c next : Producer} {f : Fate} {q : Queue} {notes : List Note}
    (now : s.current = some (c, f)) (t : Producer.Turn s.queue c next q notes) :
    Sound capacity policy posts m (s.advance c f next q notes) := by
  obtain ⟨under, safe⟩ := h.under c f now
  have like := under.like h.fits t
  have told := told_of_some now
  refine
    { room := by rw [queue_advance, like.capacity, h.room]
      rule := by rw [queue_advance, like.policy, h.rule]
      running := by rw [queue_advance, like.isRunning, h.running]
      fits := by rw [queue_advance]; exact like.fits
      kept := fun g hg => ?_, under := fun c' g now' => ?_, order := ?_, counted := ?_ }
  · rw [Lane.advance] at hg
    split at hg
    · rename_i hend
      rcases List.mem_append.mp hg with before | this
      · exact h.kept g before
      · subst hend
        rw [List.mem_singleton.mp this, ← h.room, ← h.rule]
        exact under.kept h.running h.fits t
    · exact h.kept g hg
  · rw [queue_advance]
    rw [Lane.advance] at now'
    split at now'
    · cases now'
    · rename_i on
      cases now'
      exact ⟨under.goesOn h.fits (h.room ▸ some_room) t on, Fate.isLost_follow_of_ne on⟩
  · have order := h.order
    rw [told, List.map_append] at order
    rw [told_advance, ahead_advance, List.map_append]
    exact order
  · rw [metrics_advance, hear_dropped, wrapWord_add_congr _ h.counted, h.losses_advance now t,
      Nat.add_assoc]

/-- What the worker takes leaves a call where it is. -/
theorem under_of_taken {q : Queue} {f : Fate} {c : Producer} {x : Command} {rest : List Command}
    (h : f.Under q c) (hq : q.items = x :: rest) : f.Under { q with items := rest } c := by
  cases h with
  | fresh kept => exact .fresh kept
  | admitted kept => exact .admitted kept
  | evicting kept policy full => exact .evicting kept policy full
  | waiting kept policy isLimited => exact .waiting kept (by exact policy) isLimited
  | retrying few front policy full room =>
    rw [hq] at room
    exact .retrying few front policy full (Nat.lt_of_succ_lt room)

theorem Sound.own (h : Sound capacity policy posts m s) (some_room : 0 < capacity) :
    Sound capacity policy posts m s.own := by
  unfold Lane.own
  split
  · rename_i idle
    split
    · exact h
    · rename_i p ps more
      have order := h.order
      have counted := h.counted
      rw [told_of_none idle, more] at order
      rw [losses, told_of_none idle] at counted
      refine { h with under := fun c f now => ?_, order := ?_, counted := ?_ }
      · cases now
        exact ⟨.fresh rfl, rfl⟩
      · rw [told_of_some rfl, List.map_append, List.append_assoc]
        exact order
      · rw [losses, told_of_some rfl, List.map_append, List.sum_append]
        exact counted
  · rename_i c f now
    split
    · exact h
    · exact h.advance some_room now (Producer.turn_of_step? ‹_›)

/-- **Every move keeps the invariant.** -/
theorem Sound.step (h : Sound capacity policy posts m s) (some_room : 0 < capacity) (v : Move) :
    Sound capacity policy posts m (s.step v) := by
  cases v with
  | own => exact h.own some_room
  | count e =>
    have counted := h.counted
    exact { h with counted := by rw [← note_dropped s.metrics e] at counted; exact counted }
  | take =>
    rw [Lane.step]
    split
    · exact h
    · obtain ⟨rest, hq, rfl⟩ := Queue.take?_eq_some ‹_›
      have fits := h.fits
      rw [hq] at fits
      exact { h with
        fits := Nat.le_of_succ_le fits
        under := fun c f now => ⟨under_of_taken (h.under c f now).1 hq, (h.under c f now).2⟩ }

theorem Sound.run (h : Sound capacity policy posts m s) (some_room : 0 < capacity)
    (moves : List Move) : Sound capacity policy posts m (s.run moves) := by
  induction moves generalizing s with
  | nil => exact h
  | cons v moves ih => exact ih (h.step some_room v)

/-! ## 3. Calls end -/

/-- How many steps the caller can take at most, where no call waits. -/
def left (s : Lane) : Nat :=
  ((s.current.map fun x => x.1.reach).getD 0) + 10 * s.ahead.length

theorem left_eq_zero_iff (under : ∀ c f, s.current = some (c, f) → f.Under s.queue c) :
    s.left = 0 ↔ s.isDone := by
  rw [left, isDone, Nat.add_eq_zero_iff, Nat.mul_eq_zero, List.length_eq_zero_iff]
  cases now : s.current with
  | none => simp
  | some x =>
    obtain ⟨c, f⟩ := x
    have busy : c.reach ≠ 0 := by cases under c f now <;> nofun
    simp [busy]

/-- A call that need not wait has a step to take, and comes nearer to its end. -/
theorem nearer_of_under {q : Queue} {f : Fate} {c : Producer} (h : f.Under q c)
    (impatient : q.policy.waits = false) :
    ∃ next r notes, c.step? q = some (next, r, notes) ∧ next.reach < c.reach := by
  cases h with
  | fresh kept =>
    rw [Producer.step?]
    split
    · exact ⟨_, _, _, rfl, Nat.lt_succ_self _⟩
    · exact ⟨_, _, _, rfl, Nat.succ_pos _⟩
  | admitted kept =>
    rw [Producer.step?]
    split
    · exact ⟨_, _, _, rfl, Nat.succ_pos _⟩
    · refine ⟨_, _, _, rfl, ?_⟩
      cases hp : q.policy with
      | dropNewest | alertAndDrop => exact Nat.succ_pos _
      | dropOldest => exact Nat.lt_succ_self _
      | block | blockWithin _ => rw [hp] at impatient; cases impatient
  | evicting kept policy full =>
    rw [Producer.step?]
    split
    · exact ⟨_, _, _, rfl, Nat.lt_succ_self _⟩
    · exact ⟨_, _, _, rfl, Nat.lt_succ_self _⟩
  | retrying few front policy full room =>
    have placed : q.offer? (.post f.post) = some (q.behind (.post f.post)) :=
      if_pos (decide_eq_true room)
    refine ⟨.finished, q.behind (.post f.post), [.depth (q.items.length + 1)], ?_, Nat.succ_pos _⟩
    simp only [Producer.step?, placed, Producer.placed_behind]
  | waiting kept policy isLimited => rw [policy] at impatient; cases impatient

theorem left_advance (s : Lane) (c : Producer) (f : Fate) (next : Producer) (q : Queue)
    (notes : List Note) :
    (s.advance c f next q notes).left = next.reach + 10 * s.ahead.length := by
  rw [left, ahead_advance, advance]
  split
  · rename_i hend
    rw [hend]
    rfl
  · rfl

/-- Where no call waits, each step of the caller brings him nearer to the end. -/
theorem Sound.left_own (h : Sound capacity policy posts m s) (impatient : policy.waits = false) :
    s.own.left ≤ s.left - 1 := by
  unfold Lane.own
  split
  · rename_i idle
    split
    · rename_i none
      rw [left, idle, none]
      exact Nat.le_refl 0
    · rename_i p ps more
      rw [left, left, idle, more, List.length_cons]
      simp only [Option.map_some, Option.map_none, Option.getD_some, Option.getD_none,
        Producer.reach, mostTries]
      omega
  · rename_i c f now
    obtain ⟨next, q, notes, step, nearer⟩ :=
      nearer_of_under (h.under c f now).1 (h.rule ▸ impatient)
    rw [step]
    dsimp only
    rw [left_advance, left, now]
    simp only [Option.map_some, Option.getD_some]
    omega

theorem left_step_of_ne {v : Move} (hv : v ≠ .own) : (s.step v).left = s.left := by
  cases v with
  | own => exact absurd rfl hv
  | count e => rfl
  | take =>
    rw [step]
    split <;> rfl

/-- **Where no call waits, all of them end**, whatever the worker does in between. -/
theorem Sound.left_run (h : Sound capacity policy posts m s) (some_room : 0 < capacity)
    (impatient : policy.waits = false) (moves : List Move) :
    (s.run moves).left ≤ s.left - moves.count .own := by
  induction moves generalizing s with
  | nil => exact Nat.le_refl _
  | cons v moves ih =>
    have rest := ih (h.step some_room v)
    by_cases hv : v = .own
    · subst hv
      have one := h.left_own impatient
      rw [List.count_cons_self]
      change (s.own.run moves).left ≤ s.own.left - _ at rest
      change (s.own.run moves).left ≤ _
      omega
    · rw [left_step_of_ne hv] at rest
      rw [List.count_cons_of_ne hv]
      exact rest

/-! ## 4. A worker that takes nothing -/

/-- The records of the calls that have ended. -/
def logged (s : Lane) : List Post := s.fates.map Fate.post

/-- The call under way has made room, and not yet used it. -/
def hasEvicted (s : Lane) : Bool := s.current.any fun x => x.1.hasEvicted

def isEvicting (s : Lane) : Bool := s.current.any fun x => x.1.isEvicting

/-- What is queued, and what was lost, while the worker takes nothing. -/
def Stalled (capacity : Nat) (policy : Policy) (s : Lane) : Prop :=
  match policy with
  -- the first records that were logged
  | .dropNewest | .alertAndDrop =>
    s.queue.items = (s.logged.take capacity).map .post ∧ s.losses = s.logged.length - capacity
  -- the last ones, less the one that was thrown out for the record that comes next
  | .dropOldest =>
    s.queue.items =
      (s.logged.drop (s.logged.length - capacity + s.hasEvicted.toNat)).map .post ∧
    s.losses = s.logged.length - capacity + s.hasEvicted.toNat ∧
    (s.isEvicting = true → capacity ≤ s.logged.length)
  | .block | .blockWithin _ => True

theorem logged_advance_finished (s : Lane) (c : Producer) (f : Fate) (q : Queue)
    (notes : List Note) : (s.advance c f .finished q notes).logged = s.logged ++ [f.post] := by
  rw [logged, advance, if_pos rfl]
  exact List.map_append

theorem logged_advance_of_ne (s : Lane) (c : Producer) (f : Fate) {next : Producer} (q : Queue)
    (notes : List Note) (on : next ≠ .finished) :
    (s.advance c f next q notes).logged = s.logged := by
  rw [logged, advance, if_neg on]
  rfl

theorem map_post_drop_concat (l : List Post) (p : Post) {k : Nat} (h : k ≤ l.length) :
    ((l ++ [p]).drop k).map Command.post = (l.drop k).map Command.post ++ [.post p] := by
  rw [List.drop_append_of_le_length h, List.map_append]
  rfl

/-- A policy that refuses keeps the first records. -/
theorem stalled_refusing (h : Sound capacity policy posts m s)
    (refusing : policy = .dropNewest ∨ policy = .alertAndDrop) {c next : Producer} {f : Fate}
    {q : Queue} {notes : List Note} (now : s.current = some (c, f))
    (t : Producer.Turn s.queue c next q notes)
    (first : s.queue.items = (s.logged.take capacity).map .post)
    (lost : s.losses = s.logged.length - capacity) :
    q.items = ((s.advance c f next q notes).logged.take capacity).map .post ∧
      (s.advance c f next q notes).losses =
        (s.advance c f next q notes).logged.length - capacity := by
  have count := congrArg List.length first
  rw [List.length_map, List.length_take] at count
  rw [h.losses_advance now t]
  have never (p : Policy) (other : s.queue.policy = p) (hp : p.waits = true ∨ p = .dropOldest) :
      False := by
    rw [h.rule] at other
    rcases refusing with rfl | rfl <;> subst other <;> rcases hp with hp | hp <;> cases hp
  cases (h.under c f now).1 with
  | fresh kept =>
    cases t with
    | enters =>
      have on : Producer.admitted f.post ≠ .finished := nofun
      rw [logged_advance_of_ne _ _ _ _ _ on]
      exact ⟨first, lost⟩
    | dismissed _ stopped => rw [h.running] at stopped; cases stopped
  | admitted kept =>
    cases t with
    | places _ room =>
      rw [logged_advance_finished, Queue.items_behind, first]
      rw [h.room] at room
      have few : s.logged.length < capacity := by omega
      have still : (s.logged ++ [f.post]).length ≤ capacity := by
        rw [List.length_append]
        exact few
      refine ⟨?_, ?_⟩
      · rw [List.take_of_length_le (Nat.le_of_lt few), List.take_of_length_le still,
          List.map_append]
        rfl
      · rw [lost, Nat.sub_eq_zero_of_le still, Nat.sub_eq_zero_of_le (Nat.le_of_lt few)]
        rfl
    | refuses _ isLoud full _ =>
      rw [logged_advance_finished, first]
      rw [h.room] at full
      have many : capacity ≤ s.logged.length := by omega
      refine ⟨by rw [List.take_append_of_le_length many], ?_⟩
      rw [lost, List.length_append, List.length_singleton]
      exact (Nat.sub_add_comm many).symm
    | makesRoom _ _ other => exact (never _ other (.inr rfl)).elim
    | waits _ _ _ other => exact (never _ rfl (.inl other)).elim
  | evicting kept other full => exact (never _ other (.inr rfl)).elim
  | retrying few front other full room => exact (never _ other (.inr rfl)).elim
  | waiting kept other isLimited => exact (never _ rfl (.inl other)).elim

theorem hasEvicted_advance (s : Lane) (c : Producer) (f : Fate) (next : Producer) (q : Queue)
    (notes : List Note) : (s.advance c f next q notes).hasEvicted = next.hasEvicted := by
  rw [advance]
  cases next <;> rfl

theorem isEvicting_advance (s : Lane) (c : Producer) (f : Fate) (next : Producer) (q : Queue)
    (notes : List Note) : (s.advance c f next q notes).isEvicting = next.isEvicting := by
  rw [advance]
  cases next <;> rfl

/-- A policy that throws out the oldest keeps the last records. -/
theorem stalled_evicting (h : Sound capacity policy posts m s) (some_room : 0 < capacity)
    (evicting : policy = .dropOldest) {c next : Producer} {f : Fate} {q : Queue}
    {notes : List Note} (now : s.current = some (c, f))
    (t : Producer.Turn s.queue c next q notes) (stalled : s.Stalled capacity .dropOldest) :
    (s.advance c f next q notes).Stalled capacity .dropOldest := by
  obtain ⟨last, lost, many⟩ := stalled
  have count := congrArg List.length last
  rw [List.length_map, List.length_drop] at count
  rw [hasEvicted, now, Option.any_some] at last lost count
  rw [isEvicting, now, Option.any_some] at many
  rw [Stalled, h.losses_advance now t, hasEvicted_advance, isEvicting_advance, queue_advance]
  have impatient : s.queue.policy.waits = false := by
    rw [h.rule, evicting]
    rfl
  have room := h.room
  cases (h.under c f now).1 with
  | fresh kept =>
    cases t with
    | enters =>
      have on : Producer.admitted f.post ≠ .finished := nofun
      rw [logged_advance_of_ne _ _ _ _ _ on]
      exact ⟨last, lost, nofun⟩
    | dismissed _ stopped => rw [h.running] at stopped; cases stopped
  | admitted kept =>
    simp only [Producer.hasEvicted, Bool.toNat_false, Nat.add_zero] at last lost count
    cases t with
    | places _ some_left =>
      have few : s.logged.length < capacity := by omega
      have still : (s.logged ++ [f.post]).length ≤ capacity := by
        rw [List.length_append]
        exact few
      rw [Nat.sub_eq_zero_of_le (Nat.le_of_lt few)] at last lost
      rw [logged_advance_finished, Nat.sub_eq_zero_of_le still, Queue.items_behind, last, lost]
      exact ⟨(map_post_drop_concat _ _ (Nat.zero_le _)).symm, rfl, nofun⟩
    | refuses _ isLoud full refusing =>
      rw [h.rule, evicting] at refusing
      rcases refusing with other | other <;> cases other
    | makesRoom _ full _ =>
      have on : Producer.evicting f.post mostTries ≠ .finished := nofun
      rw [logged_advance_of_ne _ _ _ _ _ on]
      exact ⟨last, lost, fun _ => by omega⟩
    | waits _ _ _ other => rw [impatient] at other; cases other
  | evicting kept _ full =>
    have enough := many rfl
    simp only [Producer.hasEvicted, Bool.toNat_false, Nat.add_zero] at last lost count
    cases t with
    | evicts _ _ x rest hq =>
      have on : Producer.retrying f.post mostTries ≠ .finished := nofun
      rw [hq] at last
      obtain ⟨p, ps, front, rfl, rfl⟩ := List.map_eq_cons_iff.mp last.symm
      rw [logged_advance_of_ne _ _ _ _ _ on, Queue.items_giveUp, countP_isLoss_giveUp, lost]
      refine ⟨?_, rfl, fun _ => enough⟩
      show ps.map Command.post = (s.logged.drop (s.logged.length - capacity + 1)).map Command.post
      rw [← List.tail_drop, front, List.tail_cons]
    | overtaken _ _ hq =>
      rw [hq, List.length_nil] at count
      omega
  | retrying few front _ full some_left =>
    have enough := many rfl
    cases t with
    | replaces _ _ _ =>
      have shorter : s.logged.length - capacity + 1 ≤ s.logged.length := by omega
      have count' : (s.logged ++ [f.post]).length - capacity = s.logged.length - capacity + 1 := by
        rw [List.length_append, List.length_singleton]
        omega
      rw [logged_advance_finished, count', Queue.items_behind, last, lost]
      exact ⟨(map_post_drop_concat _ _ shorter).symm, rfl, nofun⟩
    | outrun _ _ _ _ crowded => exact absurd some_left (Nat.not_lt.mpr crowded)
  | waiting kept other isLimited => rw [impatient] at other; cases other

/-- **Moves of all but the worker keep what is queued to the first records, or to the last.** -/
theorem Sound.stalled_step (h : Sound capacity policy posts m s) (some_room : 0 < capacity)
    {v : Move} (hv : v ≠ .take) (stalled : s.Stalled capacity policy) :
    (s.step v).Stalled capacity policy := by
  cases v with
  | take => exact absurd rfl hv
  | count e => cases policy <;> exact stalled
  | own =>
    change s.own.Stalled capacity policy
    unfold Lane.own
    split
    · rename_i idle
      split
      · exact stalled
      · rename_i p ps more
        have same : Lane.losses { s with ahead := ps, current := some (.fresh p, { post := p }) } =
            s.losses := by
          rw [losses, losses, told_of_none idle, told_of_some rfl, List.map_append,
            List.sum_append]
          rfl
        cases policy with
        | dropNewest | alertAndDrop => exact ⟨stalled.1, same.trans stalled.2⟩
        | dropOldest =>
          obtain ⟨last, lost, -⟩ := stalled
          rw [hasEvicted, idle] at last lost
          exact ⟨last, same.trans lost, nofun⟩
        | block | blockWithin _ => trivial
    · rename_i c f now
      split
      · exact stalled
      · have t := Producer.turn_of_step? ‹_›
        cases policy with
        | dropNewest =>
          rw [Stalled, queue_advance]
          exact stalled_refusing h (.inl rfl) now t stalled.1 stalled.2
        | alertAndDrop =>
          rw [Stalled, queue_advance]
          exact stalled_refusing h (.inr rfl) now t stalled.1 stalled.2
        | dropOldest => exact stalled_evicting h some_room rfl now t stalled
        | block | blockWithin _ => trivial

theorem Sound.stalled_run (h : Sound capacity policy posts m s) (some_room : 0 < capacity)
    {moves : List Move} (hm : .take ∉ moves) (stalled : s.Stalled capacity policy) :
    (s.run moves).Stalled capacity policy := by
  induction moves generalizing s with
  | nil => exact stalled
  | cons v moves ih =>
    have hv : v ≠ .take := fun e => hm (e ▸ List.mem_cons_self)
    exact ih (h.step some_room v) (fun mem => hm (List.mem_cons_of_mem _ mem))
      (h.stalled_step some_room hv stalled)

theorem stalled_start (posts : List Post) (m : Metrics) :
    (start capacity policy [] posts m).Stalled capacity policy := by
  cases policy with
  | dropNewest | alertAndDrop => exact ⟨by simp [start, logged], (Nat.zero_sub _).symm⟩
  | dropOldest => exact ⟨by simp [start, logged], (Nat.zero_sub _).symm, nofun⟩
  | block | blockWithin _ => trivial

/-- Where calls wait for room nothing is lost. -/
theorem Sound.losses_of_block (h : Sound capacity policy posts m s) (waiting : policy = .block) :
    s.losses = 0 := by
  have safe (f : Fate) (hf : f ∈ s.told) : f.evictions = [] ∧ f.isLost = false := by
    rcases List.mem_append.mp hf with ended | under
    · have kept := h.kept f ended
      rw [waiting] at kept
      exact ⟨kept.2.1, kept.1⟩
    · obtain ⟨⟨c, g⟩, now, rfl⟩ := Option.map_eq_some_iff.mp (Option.mem_toList.mp under)
      obtain ⟨held, lost⟩ := h.under c g now
      have rule : s.queue.policy = .block := h.rule.trans waiting
      cases held with
      | fresh kept | admitted kept | waiting kept => exact ⟨kept, lost⟩
      | evicting _ other | retrying _ _ other => rw [rule] at other; cases other
  refine List.sum_eq_zero_iff_forall_eq_nat.mpr fun n hn => ?_
  obtain ⟨f, hf, rfl⟩ := List.mem_map.mp hn
  obtain ⟨kept, lost⟩ := safe f hf
  rw [Fate.losses, kept, lost]
  rfl

theorem logged_of_isDone (h : Sound capacity policy posts m s) (done : s.isDone) :
    s.logged = posts := by
  have order := h.order
  rw [told_of_none done.1, done.2, List.append_nil] at order
  exact order

end Lane

/-- **A full queue loses what its policy says and no more**, in every interleaving of one caller
with a worker, before any queue with room for something. What became of each record is what the
policy promises; with a policy that waits nothing is lost, and with one that does not all calls end.
The counter of lost records counts those that were lost. If the worker takes nothing, the first
records stay in an empty queue or the last ones do, as many as it has room for, and the rest is
counted. -/
theorem losses_as_promised (capacity : Nat) (policy : Policy) (items : List Command)
    (posts : List Post) (m : Metrics) (moves : List Move) (some_room : 0 < capacity)
    (fits : items.length ≤ capacity) :
    let s := (Lane.start capacity policy items posts m).run moves
    (∀ f ∈ s.fates, f.Kept capacity policy) ∧ s.told.map Fate.post ++ s.ahead = posts ∧
      wrapWord s.metrics.dropped = wrapWord (m.dropped + s.losses) ∧
      (policy = .block → s.losses = 0) ∧
      (policy.waits = false → 10 * posts.length ≤ moves.count .own → s.isDone) ∧
      (items = [] → .take ∉ moves → s.isDone →
        match policy with
        | .dropNewest | .alertAndDrop =>
          s.queue.items = (posts.take (min posts.length capacity)).map .post ∧
            wrapWord s.metrics.dropped =
              wrapWord (m.dropped + (posts.length - min posts.length capacity))
        | .dropOldest =>
          s.queue.items = (posts.drop (posts.length - min posts.length capacity)).map .post ∧
            wrapWord s.metrics.dropped =
              wrapWord (m.dropped + (posts.length - min posts.length capacity))
        | .block | .blockWithin _ => True) := by
  have start : Lane.Sound capacity policy posts m (.start capacity policy items posts m) :=
    Lane.sound_start items fits
  have sound := start.run some_room moves
  refine ⟨sound.kept, sound.order, sound.counted, sound.losses_of_block, fun impatient long => ?_,
    fun empty stays done => ?_⟩
  · refine (Lane.left_eq_zero_iff fun c f now => (sound.under c f now).1).mp ?_
    have nearer := start.left_run some_room impatient moves
    have far : (Lane.start capacity policy items posts m).left = 10 * posts.length :=
      Nat.zero_add _
    omega
  · subst empty
    have stalled := start.stalled_run some_room stays (Lane.stalled_start posts m)
    have logged := Lane.logged_of_isDone sound done
    have counted := sound.counted
    have rest : posts.length - capacity = posts.length - min posts.length capacity := by omega
    have same : posts.take capacity = posts.take (min posts.length capacity) := by
      rw [Nat.min_comm]
      exact List.take_eq_take_min
    cases policy with
    | dropNewest | alertAndDrop =>
      obtain ⟨first, lost⟩ := stalled
      rw [logged] at first lost
      rw [lost, rest] at counted
      exact ⟨same ▸ first, counted⟩
    | dropOldest =>
      obtain ⟨last, lost, -⟩ := stalled
      rw [logged, Lane.hasEvicted, done.1] at last lost
      rw [lost] at counted
      refine ⟨rest ▸ last, rest ▸ counted⟩
    | block | blockWithin _ => trivial

/-- Three records come to a queue with room for two, and the worker takes nothing: the last two
stay. -/
theorem losses_as_promised_stalled :
    let s := (Lane.start 2 .dropOldest [] [⟨.info, "a", {}⟩, ⟨.info, "b", {}⟩, ⟨.warn, "c", {}⟩]
      {}).run (List.replicate 30 .own)
    s.queue.items = [.post ⟨.info, "b", {}⟩, .post ⟨.warn, "c", {}⟩] ∧
      wrapWord s.metrics.dropped = 1 := by
  obtain ⟨-, -, -, -, ended, stalled⟩ := losses_as_promised 2 .dropOldest []
    [⟨.info, "a", {}⟩, ⟨.info, "b", {}⟩, ⟨.warn, "c", {}⟩] {} (List.replicate 30 .own) (by decide)
    (by decide)
  exact stalled rfl (by decide) (ended rfl (by decide))

/-- The queue is full when the record is offered. The worker takes a command before the caller
throws one out, and so that one is thrown out for nothing. -/
example :
    let s := (Lane.start 2 .dropOldest [.post ⟨.info, "a", {}⟩, .post ⟨.info, "b", {}⟩]
      [⟨.warn, "c", {}⟩] {}).run [.own, .own, .own, .take, .own, .own]
    s.queue.items = [.post ⟨.warn, "c", {}⟩] ∧ s.losses = 1 := by
  decide

end Logworks.Delivery
