import Logworks.Predicate
import Logworks.Proofs.Delivery.Concert
import Logworks.Proofs.Delivery.Draining

/-!
# A queue before a logger that changes

A record waits in the queue while its logger goes on living: the level is set, filters come and go,
sinks are added. What becomes of the record is up to the logger as it is when the worker calls it.
This file fixes

* `Act` -- one time the logger was called: with a record, or for a flush of its sinks; what was
  asked of the sinks, what was let known, how it ended;
* `Relay` with its steps -- the queue with all who use it (`Traffic`), the logger as it is now, and
  all acts so far;
* `Traffic.Aside` -- a step in which the logger has no part;
* `Recorded` -- **the acts are all that was dispatched, each took a course of its round, and they
  account for the counters of what was delivered**.

NOT here: what a predicate looks at. Each act may see the predicates answer anew.
-/

namespace Logworks.Delivery

open Fanout

variable {π ι : Type}

/-! ## 1. Acts -/

/-- One time the logger was called. -/
inductive Act (π ι : Type) where
  /-- With a record, the logger being what it was then. -/
  | gave (l : Logger π ι) (trees : List (SinkTree ι)) (p : Post) (calls : List (ι × Call))
      (events : List Event) (thrown : Option Payload)
  /-- For a flush of its sinks. -/
  | flushed (trees : List (SinkTree ι)) (calls : List (ι × Call)) (events : List Event)
      (o : Outcome)

namespace Act

def post? : Act π ι → Option Post
  | gave _ _ p _ _ _ => some p
  | flushed .. => none

def events : Act π ι → List Event
  | gave _ _ _ _ es _ => es
  | flushed _ _ es _ => es

/-- What a predicate threw. -/
def thrown? : Act π ι → Option Payload
  | gave _ _ _ _ _ thrown => thrown
  | flushed .. => none

/-- The level of the logger turned the record away. -/
def isTurnedAway : Act π ι → Bool
  | gave l _ p _ _ _ => !l.isEnabled p.level
  | flushed .. => false

/-- The act took a course of its round. -/
inductive Genuine : Act π ι → Prop where
  | gave (l : Logger π ι) (trees : List (SinkTree ι)) (eval : π → Scene → Trial) (p : Post)
      (thread : Option String) (time : Time.Instant) (cs : List (ι × Call)) (es : List Event)
      (thrown : Option Payload)
      (h : Round.Course (l.logRound trees eval ⟨p.ambient, thread, time⟩ ⟨p.level, p.message, {}⟩)
        cs es thrown) :
      Genuine (.gave l trees p cs es thrown)
  | flushed (trees : List (SinkTree ι)) (cs : List (ι × Call)) (es : List Event) (o : Outcome)
      (h : Round.Course (Logger.flushRound trees) cs es o) : Genuine (.flushed trees cs es o)

end Act

/-- The records that some acts were about, in order. -/
def postsOf (acts : List (Act π ι)) : List Post := acts.filterMap Act.post?

@[simp] theorem postsOf_append (acts more : List (Act π ι)) :
    postsOf (acts ++ more) = postsOf acts ++ postsOf more := List.filterMap_append

/-- How often some acts let an event be known. -/
def heard (e : Event) (acts : List (Act π ι)) : Nat := (acts.flatMap Act.events).count e

@[simp] theorem heard_concat (e : Event) (acts : List (Act π ι)) (a : Act π ι) :
    heard e (acts ++ [a]) = heard e acts + a.events.count e := by
  simp [heard]

/-! ## 2. Steps without the logger -/

namespace Traffic

/-- A step in which the logger is not called, and no call begins. -/
structure Aside (s t : Traffic) : Prop where
  step : Step s t
  calls : t.calls.length = s.calls.length
  dispatched : t.ledger.dispatched = s.ledger.dispatched
  /-- The worker is not done with a flush. -/
  flushing : s.worker.isFlushing = true → t.worker = s.worker
  /-- Nor is one who flushes alone. -/
  alone : ∀ j : Nat, s.flushers[j]? = some .alone → t.flushers[j]? = some .alone

variable {s t : Traffic}

theorem Aside.produce {k : Nat} {c : LogCall} {next : Producer} {q : Queue} {notes : List Note}
    (hc : s.calls[k]? = some c) (h : c.progress.step? s.queue = some (next, q, notes)) :
    s.Aside (s.advance k c next q notes) where
  step := .produce s k c next q notes hc h
  calls := length_advance s k c next q notes
  dispatched := s.ledger.dispatched_afterCall k _ _ next
  flushing _ := rfl
  alone _ hf := hf

theorem Aside.work {w : Worker} {q : Queue} {notes : List Note}
    (h : s.worker.step? s.queue = some (w, q, notes)) :
    s.Aside { s with
      worker := w, queue := q, metrics := notes.foldl Metrics.hear s.metrics
      ledger := s.ledger.afterWork s.queue q } where
  step := .work s w q notes h
  calls := rfl
  dispatched := s.ledger.dispatched_afterWork _ _
  flushing hf := by
    rw [Worker.step?_of_isFlushing hf] at h
    cases h
  alone _ hf := hf

theorem Aside.flush (s : Traffic) (onWorker : Bool) :
    s.Aside { s with flushers := s.flushers ++ [.fresh onWorker] } where
  step := .flush s onWorker
  calls := rfl
  dispatched := rfl
  flushing _ := rfl
  alone j hf := by
    have hlt := (List.getElem?_eq_some_iff.mp hf).1
    show (s.flushers ++ [.fresh onWorker])[j]? = _
    rwa [List.getElem?_append_left hlt]

theorem Aside.flushStep {j : Nat} {f next : Flusher} {q : Queue} (hf : s.flushers[j]? = some f)
    (h : f.step? s.queue = some (next, q)) :
    s.Aside { s with
      queue := q, flushers := s.flushers.set j next, ledger := s.ledger.afterMark s.queue q } where
  step := .flushStep s j f next q hf h
  calls := rfl
  dispatched := s.ledger.dispatched_afterMark _ _
  flushing _ := rfl
  alone i hi := by
    have hne : j ≠ i := by
      rintro rfl
      rw [hf] at hi
      cases hi
      cases h
    show (s.flushers.set j next)[i]? = _
    rwa [List.getElem?_set_ne hne]

theorem Aside.close (s : Traffic) (onWorker : Bool) :
    s.Aside { s with closers := s.closers ++ [.fresh onWorker] } where
  step := .close s onWorker
  calls := rfl
  dispatched := rfl
  flushing _ := rfl
  alone _ hf := hf

theorem Aside.closeStep {j : Nat} {c next : Closer} {q : Queue} {logger : String}
    {last said : List Notice} (hc : s.closers[j]? = some c)
    (h : c.step? logger last s.worker s.queue = some (next, q, said)) :
    s.Aside { s with
      queue := q, closers := s.closers.set j next, ledger := s.ledger.afterMark s.queue q } where
  step := .closeStep s j c next q logger last said hc h
  calls := rfl
  dispatched := s.ledger.dispatched_afterMark _ _
  flushing _ := rfl
  alone _ hf := hf

/-- Nothing that is delivered or refused is counted in such a step. -/
theorem Aside.tally (h : s.Aside t) : t.metrics.tally = s.metrics.tally := by
  obtain ⟨step, calls, dispatched, flushing, alone⟩ := h
  cases step with
  | produce k c next q notes _ _ => exact tally_foldl_hear notes s.metrics
  | lapse k c p _ _ => exact tally_foldl_hear _ s.metrics
  | work w q notes _ => exact tally_foldl_hear notes s.metrics
  | deliver p isDraining thrown es _ =>
    have hlen := congrArg List.length dispatched
    simp [Ledger.dispatch] at hlen
  | sweep o es hf => exact absurd (flushing hf) (Worker.flushed_ne hf s.queue o)
  | flushAlone j o es hf =>
    have still := alone j hf
    have hlt := (List.getElem?_eq_some_iff.mp hf).1
    have ended : (s.flushers.set j (.finished o))[j]? = some .alone := still
    rw [List.getElem?_set_self hlt] at ended
    cases ended
  | call _ _ _ => rfl
  | flush _ => rfl
  | flushStep _ _ _ _ _ _ => rfl
  | flushLapse _ _ _ _ _ => rfl
  | close _ => rfl
  | closeStep _ _ _ _ _ _ _ _ _ => rfl
  | closeLapse _ _ _ _ _ => rfl

end Traffic

/-! ## 3. The queue and the logger -/

/-- A queue with all who use it, before a logger. -/
structure Relay (π ι : Type) where
  traffic : Traffic
  /-- The logger as it is now; its metrics are those of the queue. -/
  logger : Logger π ι
  trees : List (SinkTree ι)
  acts : List (Act π ι) := []

namespace Relay

/-- Nobody has done anything yet. -/
def start (capacity : Nat) (policy : Policy) (m : Metrics) (l : Logger π ι)
    (trees : List (SinkTree ι)) : Relay π ι where
  traffic := .start capacity policy m
  logger := l
  trees := trees

/-- The logger was called with the record in hand. -/
def given (s : Relay π ι) (p : Post) (cs : List (ι × Call)) (es : List Event)
    (thrown : Option Payload) : Relay π ι :=
  { s with
    traffic := { s.traffic with
      worker := s.traffic.worker.delivered thrown
      metrics := es.foldl Metrics.note s.traffic.metrics
      ledger := s.traffic.ledger.dispatch p }
    acts := s.acts ++ [.gave s.logger s.trees p cs es thrown] }

/-- The logger was flushed for the worker. -/
def swept (s : Relay π ι) (cs : List (ι × Call)) (es : List Event) (o : Outcome) : Relay π ι :=
  { s with
    traffic := { s.traffic with
      worker := (s.traffic.worker.flushed s.traffic.queue o).1
      queue := (s.traffic.worker.flushed s.traffic.queue o).2
      metrics := es.foldl Metrics.note s.traffic.metrics }
    acts := s.acts ++ [.flushed s.trees cs es o] }

/-- One who flushes the logger without the worker is done. -/
def sweptAlone (s : Relay π ι) (j : Nat) (cs : List (ι × Call)) (es : List Event) (o : Outcome) :
    Relay π ι :=
  { s with
    traffic := { s.traffic with
      flushers := s.traffic.flushers.set j (.finished o)
      metrics := es.foldl Metrics.note s.traffic.metrics }
    acts := s.acts ++ [.flushed s.trees cs es o] }

/-- One step of one party. -/
inductive Step : Relay π ι → Relay π ι → Prop where
  /-- The logger is changed, or its sinks are. -/
  | tune (s : Relay π ι) (l : Logger π ι) (trees : List (SinkTree ι)) :
      Step s { s with logger := l, trees := trees }
  /-- A call begins, at a level the logger does not turn away now. -/
  | call (s : Relay π ι) (caller : Nat) (p : Post) (on : s.logger.isEnabled p.level = true)
      (free : s.traffic.IsFree caller) :
      Step s { s with traffic := s.traffic.begin caller p }
  | deliver (s : Relay π ι) (eval : π → Scene → Trial) (p : Post) (isDraining : Bool)
      (thread : Option String) (time : Time.Instant) (cs : List (ι × Call)) (es : List Event)
      (thrown : Option Payload) (hw : s.traffic.worker = .delivering p isDraining)
      (h : Round.Course (s.logger.logRound s.trees eval ⟨p.ambient, thread, time⟩
        ⟨p.level, p.message, {}⟩) cs es thrown) :
      Step s (s.given p cs es thrown)
  | sweep (s : Relay π ι) (cs : List (ι × Call)) (es : List Event) (o : Outcome)
      (hw : s.traffic.worker.isFlushing = true)
      (h : Round.Course (Logger.flushRound s.trees) cs es o) : Step s (s.swept cs es o)
  | flushAlone (s : Relay π ι) (j : Nat) (cs : List (ι × Call)) (es : List Event) (o : Outcome)
      (hf : s.traffic.flushers[j]? = some .alone)
      (h : Round.Course (Logger.flushRound s.trees) cs es o) : Step s (s.sweptAlone j cs es o)
  | aside (s : Relay π ι) (t : Traffic) (h : s.traffic.Aside t) : Step s { s with traffic := t }

/-- What the steps lead to. -/
inductive Reachable (s₀ : Relay π ι) : Relay π ι → Prop where
  | start : Reachable s₀ s₀
  | step (s t : Relay π ι) (h : Reachable s₀ s) (hs : Step s t) : Reachable s₀ t

variable {s t s₀ : Relay π ι}

/-- To the queue, a step is one of its own, or none. -/
theorem traffic_step (h : Step s t) : t.traffic = s.traffic ∨ s.traffic.Step t.traffic := by
  cases h with
  | tune _ _ => exact .inl rfl
  | call caller p on free => exact .inr (.call _ caller p free)
  | deliver eval p isDraining thread time cs es thrown hw _ =>
    exact .inr (.deliver _ p isDraining thrown es hw)
  | sweep cs es o hw _ => exact .inr (.sweep _ o es hw)
  | flushAlone j cs es o hf _ => exact .inr (.flushAlone _ j o es hf)
  | aside _ h => exact .inr h.step

theorem traffic_of_reachable (h : Reachable s₀ s) : s₀.traffic.Reachable s.traffic := by
  induction h with
  | start => exact .start
  | step s t _ hs ih =>
    rcases traffic_step hs with e | hs
    · rw [e]
      exact ih
    · exact .step _ _ ih hs

theorem Reachable.trans (h : Reachable s₀ s) (h' : Reachable s t) : Reachable s₀ t := by
  induction h' with
  | start => exact h
  | step t u _ hs ih => exact .step _ _ ih hs

/-- No act is taken back. -/
theorem acts_step (h : Step s t) : s.acts <+: t.acts := by
  cases h with
  | tune _ _ => exact List.prefix_rfl
  | call _ _ _ _ => exact List.prefix_rfl
  | aside _ _ => exact List.prefix_rfl
  | deliver _ _ _ _ _ _ _ _ _ _ => exact List.prefix_append _ _
  | sweep _ _ _ _ _ => exact List.prefix_append _ _
  | flushAlone _ _ _ _ _ _ => exact List.prefix_append _ _

theorem acts_of_reachable (h : Reachable s t) : s.acts <+: t.acts := by
  induction h with
  | start => exact List.prefix_rfl
  | step t u _ hs ih => exact ih.trans (acts_step hs)

/-! ## 4. What the acts tell -/

theorem logged_foldl_note (es : List Event) (m : Metrics) :
    wrapWord (es.foldl Metrics.note m).logged = wrapWord (m.logged + es.count .delivered) := by
  induction es generalizing m with
  | nil => rfl
  | cons e es ih =>
    rw [List.foldl_cons, ih]
    cases e with
    | delivered =>
      show wrapWord (wrapWord (m.logged + 1) + es.count .delivered) = _
      rw [wrapWord_wrapWord_add, List.count_cons_self, Nat.add_right_comm, Nat.add_assoc]
    | notice _ | mark _ | refused | failure => rfl

theorem filtered_foldl_note (es : List Event) (m : Metrics) :
    wrapWord (es.foldl Metrics.note m).filtered = wrapWord (m.filtered + es.count .refused) := by
  induction es generalizing m with
  | nil => rfl
  | cons e es ih =>
    rw [List.foldl_cons, ih]
    cases e with
    | refused =>
      show wrapWord (wrapWord (m.filtered + 1) + es.count .refused) = _
      rw [wrapWord_wrapWord_add, List.count_cons_self, Nat.add_right_comm, Nat.add_assoc]
    | notice _ | mark _ | delivered | failure => rfl

/-- **The acts tell what was dispatched, and what was counted for it.** -/
structure Recorded (m : Metrics) (s : Relay π ι) : Prop where
  genuine : ∀ a ∈ s.acts, a.Genuine
  posts : postsOf s.acts = s.traffic.ledger.dispatched
  logged : wrapWord s.traffic.metrics.logged = wrapWord (m.logged + heard .delivered s.acts)
  filtered : wrapWord s.traffic.metrics.filtered = wrapWord (m.filtered + heard .refused s.acts)

theorem recorded_start (capacity : Nat) (policy : Policy) (m : Metrics) (l : Logger π ι)
    (trees : List (SinkTree ι)) : Recorded m (start capacity policy m l trees) where
  genuine a h := by cases h
  posts := rfl
  logged := rfl
  filtered := rfl

variable {m : Metrics}

/-- A step that counts nothing of it, and is no act. -/
theorem Recorded.frame (h : Recorded m s) (ha : t.acts = s.acts)
    (hd : t.traffic.ledger.dispatched = s.traffic.ledger.dispatched)
    (ht : t.traffic.metrics.tally = s.traffic.metrics.tally) : Recorded m t where
  genuine := by rw [ha]; exact h.genuine
  posts := by rw [ha, hd]; exact h.posts
  logged := by
    rw [ha, show t.traffic.metrics.logged = s.traffic.metrics.logged from congrArg Tally.logged ht]
    exact h.logged
  filtered := by
    rw [ha, show t.traffic.metrics.filtered = s.traffic.metrics.filtered from
      congrArg Tally.filtered ht]
    exact h.filtered

/-- An act: its events are counted. -/
theorem Recorded.act (h : Recorded m s) {a : Act π ι} (ha : a.Genuine) (et : t.acts = s.acts ++ [a])
    (hd : t.traffic.ledger.dispatched = s.traffic.ledger.dispatched ++ a.post?.toList)
    (hm : t.traffic.metrics = a.events.foldl Metrics.note s.traffic.metrics) : Recorded m t where
  genuine b hb := by
    rw [et] at hb
    rcases List.mem_append.mp hb with hb | hb
    · exact h.genuine b hb
    · rw [List.mem_singleton.mp hb]
      exact ha
  posts := by
    rw [et, postsOf_append, h.posts, hd]
    cases hp : a.post? <;> simp [postsOf, hp]
  logged := by
    rw [et, hm, heard_concat, logged_foldl_note, ← Nat.add_assoc]
    exact wrapWord_add_congr _ h.logged
  filtered := by
    rw [et, hm, heard_concat, filtered_foldl_note, ← Nat.add_assoc]
    exact wrapWord_add_congr _ h.filtered

theorem recorded_step (h : Recorded m s) (hs : Step s t) : Recorded m t := by
  cases hs with
  | tune _ _ => exact h.frame rfl rfl rfl
  | call _ _ _ _ => exact h.frame rfl rfl rfl
  | deliver eval p isDraining thread time cs es thrown hw hc =>
    exact h.act (.gave _ _ eval p thread time cs es thrown hc) rfl rfl rfl
  | sweep cs es o hw hc => exact h.act (.flushed _ cs es o hc) rfl (List.append_nil _).symm rfl
  | flushAlone j cs es o hf hc =>
    exact h.act (.flushed _ cs es o hc) rfl (List.append_nil _).symm rfl
  | aside t' ha => exact h.frame rfl ha.dispatched ha.tally

theorem recorded_of_reachable {capacity : Nat} {policy : Policy} {l : Logger π ι}
    {trees : List (SinkTree ι)} (h : Reachable (start capacity policy m l trees) s) :
    Recorded m s := by
  induction h with
  | start => exact recorded_start capacity policy m l trees
  | step s t _ hs ih => exact recorded_step ih hs

/-! ## 5. Runs that are computed -/

/-- A caller begins a call. -/
def begin (s : Relay π ι) (caller : Nat) (p : Post) : Relay π ι :=
  { s with traffic := s.traffic.begin caller p }

/-- The next step of call `k`, if it has one. -/
def produced (s : Relay π ι) (k : Nat) : Relay π ι := { s with traffic := s.traffic.produced k }

/-- The next step of the worker on the queue, if it has one. -/
def worked (s : Relay π ι) : Relay π ι := { s with traffic := s.traffic.worked }

/-- The next step of flush `j`, if it has one. -/
def furthered (s : Relay π ι) (j : Nat) : Relay π ι := { s with traffic := s.traffic.furthered j }

/-- A flush begins, on another thread than the worker's. -/
def flushBegun (s : Relay π ι) : Relay π ι :=
  { s with traffic := { s.traffic with flushers := s.traffic.flushers ++ [.fresh false] } }

/-- A shutdown begins. -/
def closeBegun (s : Relay π ι) : Relay π ι :=
  { s with traffic := { s.traffic with closers := s.traffic.closers ++ [.fresh false] } }

/-- The next step of shutdown `j`, if it has one. -/
def closed (s : Relay π ι) (j : Nat) : Relay π ι := { s with traffic := s.traffic.closed j }

theorem Reachable.begin (h : Reachable s₀ s) (caller : Nat) (p : Post)
    (on : s.logger.isEnabled p.level = true) (free : s.traffic.IsFree caller) :
    Reachable s₀ (s.begin caller p) := .step _ _ h (.call s caller p on free)

theorem Reachable.produced (h : Reachable s₀ s) (k : Nat) : Reachable s₀ (s.produced k) := by
  unfold Relay.produced Traffic.produced
  split
  · exact h
  · split
    · exact h
    · exact .step _ _ h (.aside s _ (.produce ‹_› ‹_›))

theorem Reachable.worked (h : Reachable s₀ s) : Reachable s₀ s.worked := by
  unfold Relay.worked Traffic.worked
  split
  · exact h
  · exact .step _ _ h (.aside s _ (.work ‹_›))

theorem Reachable.furthered (h : Reachable s₀ s) (j : Nat) : Reachable s₀ (s.furthered j) := by
  unfold Relay.furthered Traffic.furthered
  split
  · exact h
  · split
    · exact h
    · exact .step _ _ h (.aside s _ (.flushStep ‹_› ‹_›))

theorem Reachable.flushBegun (h : Reachable s₀ s) : Reachable s₀ s.flushBegun :=
  .step _ _ h (.aside s _ (.flush s.traffic false))

theorem Reachable.closeBegun (h : Reachable s₀ s) : Reachable s₀ s.closeBegun :=
  .step _ _ h (.aside s _ (.close s.traffic false))

theorem Reachable.closed (h : Reachable s₀ s) (j : Nat) : Reachable s₀ (s.closed j) := by
  unfold Relay.closed Traffic.closed
  split
  · exact h
  · split
    · exact h
    · exact .step _ _ h (.aside s _ (.closeStep ‹_› ‹_›))

/-- A logger without filters, before one sink. -/
def plainLog : Logger Predicate Nat where
  name := "svc"
  sinks := [0]

end Relay

end Logworks.Delivery
