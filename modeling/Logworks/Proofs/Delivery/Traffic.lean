import Logworks.Delivery.Closer
import Logworks.Delivery.Flusher
import Logworks.Delivery.Producer
import Logworks.Logger

/-!
# The queue with all who use it

Any number of callers log, flush and shut down, each at its own pace, while the worker delivers.
One touch of the queue, one look at whether it runs and one delivery are one step each; between any
two steps of one party the others may take as many as they like. This file fixes

* `Traffic` -- the queue, the worker, and every call that was made so far with how far it has come;
* `Ledger` -- what became of each record, named by the number of its call; it follows the queue and
  decides nothing;
* `Traffic.Step` and `Traffic.Reachable` -- the steps, and what they lead to from an empty queue;
* `Producer.Does`, `Worker.Does`, `Flusher.Does`, `Closer.Does` -- **all that a step of each can
  do** (`Producer.does_of_step?` and its like); `Closer.Turn` -- the same of a shutdown, turn by
  turn.

NOT here: what the logger does with a record. A delivery may end in any way and let any events be
known, so whatever holds of all steps holds before every logger.
-/

namespace Logworks

open Delivery Fanout

/-- What a note of the queue does to the metrics. -/
def Metrics.hear (m : Metrics) : Note → Metrics
  | .depth n => m.recordQueueDepth n
  | .lost _ _ => m.recordDropped

namespace Delivery

/-! ## 1. Records by the number of their call -/

/-- A call that logs a record: who makes it, what it logs, and how far it has come. -/
structure LogCall where
  caller : Nat
  post : Post
  progress : Producer
  deriving DecidableEq, Repr

/-- What became of the records, each named by the number of its call. -/
structure Ledger where
  /-- For each command in the queue the call whose record it is, none for a mark. -/
  slots : List (Option Nat) := []
  /-- The records that were put into the queue, in that order. -/
  entered : List Nat := []
  /-- The records that the worker was given, in that order. -/
  handed : List Nat := []
  /-- The records that were counted as lost. -/
  lost : List Nat := []
  /-- What the worker called the logger with, call after call. -/
  dispatched : List Post := []
  deriving DecidableEq, Repr

namespace Ledger

/-- The records in the queue, from the front. -/
def queued (l : Ledger) : List Nat := l.slots.filterMap id

/-- The record at the front, if the command there is one. -/
def front (l : Ledger) : List Nat := (l.slots.take 1).filterMap id

def enter (l : Ledger) (k : Nat) : Ledger :=
  { l with slots := l.slots ++ [some k], entered := l.entered ++ [k] }

def enterMark (l : Ledger) : Ledger := { l with slots := l.slots ++ [none] }

/-- The command at the front went to the worker. -/
def hand (l : Ledger) : Ledger :=
  { l with slots := l.slots.tail, handed := l.handed ++ l.front }

/-- The command at the front was thrown out. -/
def evict (l : Ledger) : Ledger :=
  { l with slots := l.slots.tail, lost := l.lost ++ l.front }

/-- A record was given up that was in no queue. -/
def refuse (l : Ledger) (k : Nat) : Ledger := { l with lost := l.lost ++ [k] }

/-- The logger was called with a record. -/
def dispatch (l : Ledger) (p : Post) : Ledger := { l with dispatched := l.dispatched ++ [p] }

/-- After a step of call `k` that left `next` to do: what it did shows in the queue. -/
def afterCall (l : Ledger) (k : Nat) (before after : Queue) (next : Producer) : Ledger :=
  if before.items.length < after.items.length then l.enter k
  else if after.items.length < before.items.length then l.evict
  else if next = .finished then l.refuse k
  else l

/-- After a step of the worker. -/
def afterWork (l : Ledger) (before after : Queue) : Ledger :=
  if after.items.length < before.items.length then l.hand else l

/-- After a step of one who puts marks into the queue. -/
def afterMark (l : Ledger) (before after : Queue) : Ledger :=
  if before.items.length < after.items.length then l.enterMark else l

end Ledger

/-! ## 2. Steps -/

/-- The worker is busy with a flush of the logger. -/
def Worker.isFlushing : Worker → Bool
  | answering _ | closing => true
  | _ => false

/-- The record the worker took and has not yet called the logger with. -/
def Worker.inHand : Worker → List Post
  | delivering p _ => [p]
  | _ => []

/-- The queue with all who use it. -/
structure Traffic where
  queue : Queue
  worker : Worker := .idle
  /-- The metrics of the logger behind the queue. -/
  metrics : Metrics := {}
  /-- The calls made so far, those that have ended included. -/
  calls : List LogCall := []
  flushers : List Flusher := []
  closers : List Closer := []
  ledger : Ledger := {}

namespace Traffic

/-- Nobody has done anything yet. -/
def start (capacity : Nat) (policy : Policy) (m : Metrics) : Traffic where
  queue := { capacity, policy }
  metrics := m

/-- What each call logs, and who makes it. -/
def posts (s : Traffic) : List Post := s.calls.map LogCall.post
def callers (s : Traffic) : List Nat := s.calls.map LogCall.caller

/-- A caller begins a call. -/
def begin (s : Traffic) (caller : Nat) (p : Post) : Traffic :=
  { s with calls := s.calls ++ [⟨caller, p, .fresh p⟩] }

/-- Call `k`, which was `c`, has come to `next`. -/
def advance (s : Traffic) (k : Nat) (c : LogCall) (next : Producer) (q : Queue)
    (notes : List Note) : Traffic :=
  { s with
    queue := q
    metrics := notes.foldl Metrics.hear s.metrics
    calls := s.calls.set k { c with progress := next }
    ledger := s.ledger.afterCall k s.queue q next }

/-- One step of one party. -/
inductive Step : Traffic → Traffic → Prop where
  /-- A call begins, at a level the logger does not turn away. Its caller has no other one under
      way. -/
  | call (s : Traffic) (caller : Nat) (p : Post)
      (free : ∀ c ∈ s.calls, c.caller = caller → c.progress = .finished) :
      Step s (s.begin caller p)
  | produce (s : Traffic) (k : Nat) (c : LogCall) (next : Producer) (q : Queue)
      (notes : List Note) (hc : s.calls[k]? = some c)
      (h : c.progress.step? s.queue = some (next, q, notes)) :
      Step s (s.advance k c next q notes)
  /-- The limit of a wait for room has come. -/
  | lapse (s : Traffic) (k : Nat) (c : LogCall) (p : Post) (hc : s.calls[k]? = some c)
      (h : c.progress = .waiting p true) :
      Step s (s.advance k c c.progress.expire.1 s.queue c.progress.expire.2)
  | work (s : Traffic) (w : Worker) (q : Queue) (notes : List Note)
      (h : s.worker.step? s.queue = some (w, q, notes)) :
      Step s { s with
        worker := w, queue := q, metrics := notes.foldl Metrics.hear s.metrics
        ledger := s.ledger.afterWork s.queue q }
  /-- The logger was called with a record, and is done with it, or a predicate threw. -/
  | deliver (s : Traffic) (p : Post) (isDraining : Bool) (thrown : Option Payload)
      (es : List Event) (h : s.worker = .delivering p isDraining) :
      Step s { s with
        worker := s.worker.delivered thrown, metrics := es.foldl Metrics.note s.metrics
        ledger := s.ledger.dispatch p }
  /-- The logger was flushed for the worker. -/
  | sweep (s : Traffic) (o : Outcome) (es : List Event) (h : s.worker.isFlushing = true) :
      Step s { s with
        worker := (s.worker.flushed s.queue o).1, queue := (s.worker.flushed s.queue o).2
        metrics := es.foldl Metrics.note s.metrics }
  | flush (s : Traffic) (onWorker : Bool) :
      Step s { s with flushers := s.flushers ++ [.fresh onWorker] }
  | flushStep (s : Traffic) (j : Nat) (f next : Flusher) (q : Queue)
      (hf : s.flushers[j]? = some f) (h : f.step? s.queue = some (next, q)) :
      Step s { s with
        queue := q, flushers := s.flushers.set j next, ledger := s.ledger.afterMark s.queue q }
  /-- One who flushes the logger without the worker is done. -/
  | flushAlone (s : Traffic) (j : Nat) (o : Outcome) (es : List Event)
      (hf : s.flushers[j]? = some .alone) :
      Step s { s with
        flushers := s.flushers.set j (.finished o), metrics := es.foldl Metrics.note s.metrics }
  | flushLapse (s : Traffic) (j : Nat) (f : Flusher) (logger limit : String)
      (hf : s.flushers[j]? = some f) :
      Step s { s with flushers := s.flushers.set j (f.expire logger limit s.queue) }
  | close (s : Traffic) (onWorker : Bool) :
      Step s { s with closers := s.closers ++ [.fresh onWorker] }
  | closeStep (s : Traffic) (j : Nat) (c next : Closer) (q : Queue) (logger : String)
      (last said : List Notice) (hc : s.closers[j]? = some c)
      (h : c.step? logger last s.worker s.queue = some (next, q, said)) :
      Step s { s with
        queue := q, closers := s.closers.set j next, ledger := s.ledger.afterMark s.queue q }
  | closeLapse (s : Traffic) (j : Nat) (c : Closer) (logger limit : String)
      (hc : s.closers[j]? = some c) :
      Step s { s with closers := s.closers.set j (c.expire logger limit).1 }

/-- What the steps lead to. -/
inductive Reachable (s₀ : Traffic) : Traffic → Prop where
  | start : Reachable s₀ s₀
  | step (s t : Traffic) (h : Reachable s₀ s) (hs : Step s t) : Reachable s₀ t

end Traffic

/-! ## 3. All that a step can do -/

/-- The record a call still has to put into the queue. -/
def Producer.post? : Producer → Option Post
  | fresh p | admitted p | evicting p _ | retrying p _ | waiting p _ => some p
  | finished => none

/-- The call has seen the queue running, and has its record still. -/
def Producer.wasAdmitted : Producer → Bool
  | admitted _ | evicting _ _ | retrying _ _ | waiting _ _ => true
  | fresh _ | finished => false

@[simp] theorem Producer.post?_eq_none {c : Producer} : c.post? = none ↔ c = finished := by
  cases c <;> simp [post?]

theorem Producer.ne_finished_of_post? {c : Producer} {p : Post} (h : c.post? = some p) :
    c ≠ .finished := by
  rintro rfl
  cases h

/-- All that a step of a call can do to the queue. -/
inductive Producer.Does (q : Queue) (c : Producer) : Producer → Queue → List Note → Prop where
  /-- It goes on with its record. -/
  | goesOn (next : Producer) (p : Post) (hc : c.post? = some p) (hn : next.post? = some p) :
      Does q c next q []
  /-- It puts its record at the back. -/
  | places (p : Post) (hc : c.post? = some p) (ha : c.wasAdmitted = true)
      (room : q.hasRoom = true) :
      Does q c .finished { q with items := q.items ++ [.post p] } [.depth (q.items.length + 1)]
  /-- It gives its record up: the queue was stopped, or is full. -/
  | refuses (p : Post) (isLoud : Bool) (hc : c.post? = some p)
      (why : c = .fresh p ∧ q.isRunning = false ∨ q.hasRoom = false) :
      Does q c .finished q [.lost p isLoud]
  /-- It throws out the command at the front. -/
  | evicts (p : Post) (tries : Nat) (cmd : Command) (rest : List Command)
      (hc : c = .evicting p tries) (hq : q.items = cmd :: rest) :
      Does q c (.retrying p tries) ({ q with items := rest }.giveUp cmd).1
        ({ q with items := rest }.giveUp cmd).2

theorem Queue.offer?_eq_some {q r : Queue} {c : Command} (h : q.offer? c = some r) :
    q.hasRoom = true ∧ r = { q with items := q.items ++ [c] } := by
  unfold offer? at h
  split at h
  · exact ⟨‹_›, by simpa using h.symm⟩
  · cases h

theorem Queue.offer?_eq_none {q : Queue} {c : Command} (h : q.offer? c = none) :
    q.hasRoom = false := by
  unfold offer? at h
  split at h
  · cases h
  · simpa using ‹¬ q.hasRoom = true›

theorem Queue.take?_eq_some {q r : Queue} {c : Command} (h : q.take? = some (c, r)) :
    ∃ rest, q.items = c :: rest ∧ r = { q with items := rest } := by
  unfold take? at h
  split at h
  · cases h
  · simp only [Option.some.injEq, Prod.mk.injEq] at h
    obtain ⟨rfl, rfl⟩ := h
    exact ⟨_, ‹_›, rfl⟩

theorem Queue.take?_eq_none {q : Queue} (h : q.take? = none) : q.items = [] := by
  unfold take? at h
  split at h
  · assumption
  · cases h

@[simp] theorem Queue.items_giveUp (q : Queue) (c : Command) : (q.giveUp c).1.items = q.items := by
  cases c <;> rfl

/-- What a call does that has placed its record. -/
theorem Producer.does_placed {q r : Queue} {c : Producer} {p : Post} (hc : c.post? = some p)
    (ha : c.wasAdmitted = true) (h : q.offer? (.post p) = some r) :
    Does q c (placed r).1 (placed r).2.1 (placed r).2.2 := by
  obtain ⟨room, rfl⟩ := Queue.offer?_eq_some h
  simpa [placed] using Does.places p hc ha room

/-- **All that a step of a call can do.** -/
theorem Producer.does_of_step? {q r : Queue} {c next : Producer} {notes : List Note}
    (h : c.step? q = some (next, r, notes)) : Does q c next r notes := by
  cases c with
  | fresh p =>
    simp only [step?] at h
    split at h <;> cases h
    · exact .goesOn _ p rfl rfl
    · exact .refuses p false rfl (.inl ⟨rfl, by simpa using ‹¬ q.isRunning = true›⟩)
  | admitted p =>
    simp only [step?] at h
    split at h
    · cases h
      exact does_placed rfl rfl ‹_›
    · have full := Queue.offer?_eq_none ‹_›
      cases hp : q.policy <;> simp only [hp, overflow] at h <;> cases h
      · exact .refuses p false rfl (.inr full)
      · exact .goesOn _ p rfl rfl
      · exact .goesOn _ p rfl rfl
      · exact .goesOn _ p rfl rfl
      · exact .refuses p true rfl (.inr full)
  | evicting p tries =>
    simp only [step?] at h
    split at h
    · cases h
      exact .goesOn _ p rfl rfl
    · obtain ⟨rest, hq, rfl⟩ := Queue.take?_eq_some ‹_›
      cases h
      exact .evicts p tries _ rest rfl hq
  | retrying p tries =>
    simp only [step?] at h
    split at h
    · cases h
      exact does_placed rfl rfl ‹_›
    · have full := Queue.offer?_eq_none ‹_›
      split at h <;> cases h
      · exact .refuses p false rfl (.inr full)
      · exact .refuses p false rfl (.inr full)
      · exact .goesOn _ p rfl rfl
  | waiting p isLimited =>
    simp only [step?, Option.map_eq_some_iff] at h
    obtain ⟨r', hr, h⟩ := h
    cases h
    exact does_placed rfl rfl hr
  | finished => cases h

/-- All that a step of the worker can do to the queue. -/
inductive Worker.Does (q : Queue) (w : Worker) : Worker → Queue → List Note → Prop where
  /-- It takes a record. -/
  | takes (p : Post) (rest : List Command) (notes : List Note) (hq : q.items = .post p :: rest)
      (hn : notes = [.depth rest.length] ∨ notes = []) (hw : w = .idle ∨ w = .draining) :
      Does q w (.delivering p (w == .draining)) { q with items := rest } notes
  /-- It waits for commands, and takes a mark. -/
  | flushes (ticket : Nat) (rest : List Command) (hq : q.items = .flush ticket :: rest)
      (hw : w = .idle) : Does q w (.answering ticket) { q with items := rest } []
  | stops (rest : List Command) (hq : q.items = .stop :: rest)
      (hw : w = .idle ∨ w = .draining) : Does q w .draining { q with items := rest } []
  /-- It empties the queue, and answers at once. -/
  | answers (ticket : Nat) (rest : List Command) (hq : q.items = .flush ticket :: rest)
      (hw : w = .draining) :
      Does q w .draining ({ q with items := rest }.answer ticket (.flushed (.ok ()))) []
  /-- The queue is empty, and it ends. -/
  | notices (hq : q.items = []) (hr : q.isRunning = false) (hw : w = .idle) :
      Does q w .draining q []
  | closes (hq : q.items = []) (hw : w = .draining) : Does q w .closing q [.depth 0]

/-- **All that a step of the worker can do.** -/
theorem Worker.does_of_step? {q r : Queue} {w next : Worker} {notes : List Note}
    (h : w.step? q = some (next, r, notes)) : Does q w next r notes := by
  cases w with
  | idle =>
    simp only [step?] at h
    split at h
    · rename_i c q' hq'
      obtain ⟨rest, hq, rfl⟩ := Queue.take?_eq_some hq'
      cases c with
      | post p => cases h; exact .takes p rest _ hq (.inl rfl) (.inl rfl)
      | flush ticket => cases h; exact .flushes ticket rest hq rfl
      | stop => cases h; exact .stops rest hq (.inl rfl)
    · have hq := Queue.take?_eq_none ‹_›
      split at h <;> cases h
      exact .notices hq (by simpa using ‹¬ q.isRunning = true›) rfl
  | draining =>
    simp only [step?] at h
    split at h
    · rename_i c q' hq'
      obtain ⟨rest, hq, rfl⟩ := Queue.take?_eq_some hq'
      cases c with
      | post p => cases h; exact .takes p rest _ hq (.inr rfl) (.inr rfl)
      | flush ticket => cases h; exact .answers ticket rest hq rfl
      | stop => cases h; exact .stops rest hq (.inr rfl)
    · cases h
      exact .closes (Queue.take?_eq_none ‹_›) rfl
  | delivering _ _ | answering _ | closing | ended | crashed _ => cases h

/-- All that a step of a flush can do to the queue. -/
inductive Flusher.Does (q : Queue) (f : Flusher) : Flusher → Queue → Prop where
  | goesOn (next : Flusher) : Does q f next q
  /-- It puts its mark at the back. -/
  | marks (hf : f = .marking) (room : q.hasRoom = true) :
      Does q f (.waiting q.tickets)
        { q with items := q.items ++ [.flush q.tickets], tickets := q.tickets + 1 }

/-- **All that a step of a flush can do.** -/
theorem Flusher.does_of_step? {q r : Queue} {f next : Flusher}
    (h : f.step? q = some (next, r)) : Does q f next r := by
  cases f with
  | fresh onWorker => cases h; exact .goesOn _
  | marking =>
    simp only [step?, Option.map_eq_some_iff] at h
    obtain ⟨q', hq', h⟩ := h
    obtain ⟨room, rfl⟩ := Queue.offer?_eq_some hq'
    cases h
    exact .marks rfl room
  | waiting ticket =>
    simp only [step?, Option.map_eq_some_iff] at h
    obtain ⟨_, _, h⟩ := h
    cases h
    exact .goesOn _
  | alone | finished _ => cases h

/-- All that a step of a shutdown can do to the queue. -/
inductive Closer.Does (q : Queue) (c : Closer) : Closer → Queue → Prop where
  | goesOn (next : Closer) (r : Queue) (hn : next ≠ .marking) (hi : r.items = q.items)
      (hr : r.isRunning = q.isRunning) : Does q c next r
  /-- It stops the queue. -/
  | stops : Does q c .marking { q with isRunning := false }
  /-- It puts its mark at the back. -/
  | marks (hc : c = .marking) : Does q c .joining { q with items := q.items ++ [.stop] }

/-- **All that a step of a shutdown can do.** -/
theorem Closer.does_of_step? {logger : String} {last said : List Notice} {w : Worker}
    {q r : Queue} {c next : Closer} (h : c.step? logger last w q = some (next, r, said)) :
    Does q c next r := by
  cases c with
  | fresh onWorker =>
    simp only [step?] at h
    split at h
    · cases h; exact .goesOn _ _ (by simp) rfl rfl
    · split at h <;> cases h <;> exact .goesOn _ _ (by simp) rfl rfl
  | stopping => cases h; exact .stops
  | marking =>
    simp only [step?, Option.map_eq_some_iff] at h
    obtain ⟨q', hq', h⟩ := h
    obtain ⟨_, rfl⟩ := Queue.offer?_eq_some hq'
    cases h
    exact .marks rfl
  | joining =>
    simp only [step?] at h
    split at h <;> cases h <;> exact .goesOn _ _ (by simp) rfl rfl
  | parting isDown => cases h; exact .goesOn _ _ (by simp) rfl rfl
  | finished _ => cases h

/-- The turns a shutdown can take, by what it finds. -/
inductive Closer.Turn (w : Worker) (q : Queue) : Closer → Closer → Queue → Prop where
  /-- The handle is taken, and nothing is left to do. -/
  | dismissed (onWorker : Bool) (hh : q.hasHandle = false) :
      Turn w q (.fresh onWorker) (.finished true) q
  /-- The worker cannot wait for itself. -/
  | refused (hh : q.hasHandle = true) : Turn w q (.fresh true) (.finished false) q
  | takes (hh : q.hasHandle = true) :
      Turn w q (.fresh false) .stopping { q with hasHandle := false }
  | stops : Turn w q .stopping .marking { q with isRunning := false }
  | marks (room : q.hasRoom = true) :
      Turn w q .marking .joining { q with items := q.items ++ [.stop] }
  | joins (hw : w = .ended) : Turn w q .joining (.parting true) q
  | mourns (p : Payload) (hw : w = .crashed p) : Turn w q .joining (.parting false) q
  | parts (isDown : Bool) : Turn w q (.parting isDown) (.finished isDown) q

theorem Closer.turn_of_step? {logger : String} {last said : List Notice} {w : Worker}
    {q r : Queue} {c next : Closer} (h : c.step? logger last w q = some (next, r, said)) :
    Turn w q c next r := by
  cases c with
  | fresh onWorker =>
    simp only [step?] at h
    split at h
    · cases h
      exact .dismissed onWorker (by simpa using ‹(!q.hasHandle) = true›)
    · have hh : q.hasHandle = true := by simpa using ‹¬ (!q.hasHandle) = true›
      cases onWorker <;> cases h
      · exact .takes hh
      · exact .refused hh
  | stopping => cases h; exact .stops
  | marking =>
    simp only [step?, Option.map_eq_some_iff] at h
    obtain ⟨q', hq', h⟩ := h
    obtain ⟨room, rfl⟩ := Queue.offer?_eq_some hq'
    cases h
    exact .marks room
  | joining =>
    simp only [step?] at h
    split at h <;> cases h
    · exact .joins rfl
    · exact .mourns _ rfl
  | parting isDown => cases h; exact .parts isDown
  | finished _ => cases h

/-! ## 4. Runs that are computed -/

namespace Traffic

variable {s₀ s : Traffic}

/-- The next step of call `k`, if it has one. -/
def produced (s : Traffic) (k : Nat) : Traffic :=
  match s.calls[k]? with
  | none => s
  | some c =>
    match c.progress.step? s.queue with
    | none => s
    | some (next, q, notes) => s.advance k c next q notes

/-- The next step of the worker on the queue, if it has one. -/
def worked (s : Traffic) : Traffic :=
  match s.worker.step? s.queue with
  | none => s
  | some (w, q, notes) =>
    { s with
      worker := w, queue := q, metrics := notes.foldl Metrics.hear s.metrics
      ledger := s.ledger.afterWork s.queue q }

/-- The next step of shutdown `j`, if it has one. -/
def closed (s : Traffic) (j : Nat) : Traffic :=
  match s.closers[j]? with
  | none => s
  | some c =>
    match c.step? "" [] s.worker s.queue with
    | none => s
    | some (next, q, _) =>
      { s with
        queue := q, closers := s.closers.set j next, ledger := s.ledger.afterMark s.queue q }

/-- The next step of flush `j`, if it has one. -/
def furthered (s : Traffic) (j : Nat) : Traffic :=
  match s.flushers[j]? with
  | none => s
  | some f =>
    match f.step? s.queue with
    | none => s
    | some (next, q) =>
      { s with
        queue := q, flushers := s.flushers.set j next, ledger := s.ledger.afterMark s.queue q }

/-- The logger is done with the record the worker took, or a predicate threw; nothing is let
known. -/
def delivered (s : Traffic) (thrown : Option Payload) : Traffic :=
  match s.worker with
  | .delivering p _ =>
    { s with worker := s.worker.delivered thrown, ledger := s.ledger.dispatch p }
  | _ => s

/-- The logger was flushed for the worker, and all went well. -/
def swept (s : Traffic) : Traffic :=
  if s.worker.isFlushing then
    { s with worker := (s.worker.flushed s.queue .ok).1, queue := (s.worker.flushed s.queue .ok).2 }
  else s

theorem Reachable.produced (h : Reachable s₀ s) (k : Nat) : Reachable s₀ (s.produced k) := by
  unfold Traffic.produced
  split
  · exact h
  · split
    · exact h
    · exact .step _ _ h (.produce s k _ _ _ _ ‹_› ‹_›)

theorem Reachable.closed (h : Reachable s₀ s) (j : Nat) : Reachable s₀ (s.closed j) := by
  unfold Traffic.closed
  split
  · exact h
  · split
    · exact h
    · exact .step _ _ h (.closeStep s j _ _ _ "" [] _ ‹_› ‹_›)

theorem Reachable.worked (h : Reachable s₀ s) : Reachable s₀ s.worked := by
  unfold Traffic.worked
  split
  · exact h
  · exact .step _ _ h (.work s _ _ _ ‹_›)

theorem Reachable.delivered (h : Reachable s₀ s) (thrown : Option Payload) :
    Reachable s₀ (s.delivered thrown) := by
  unfold Traffic.delivered
  split
  · exact .step _ _ h (.deliver s _ _ thrown [] ‹_›)
  · exact h

theorem Reachable.swept (h : Reachable s₀ s) : Reachable s₀ s.swept := by
  unfold Traffic.swept
  split
  · exact .step _ _ h (.sweep s .ok [] ‹_›)
  · exact h

end Traffic

end Delivery

end Logworks
