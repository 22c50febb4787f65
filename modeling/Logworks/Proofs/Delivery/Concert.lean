import Logworks.Ambient
import Logworks.Proofs.Delivery.Conservation
import Logworks.Proofs.Fanout.Ruling
import Mathlib.Logic.Function.Basic

/-!
# Producers before a queue, and producers alone

The same programs run in two ways. Behind a queue that makes its callers wait, the worker hands
each record to the logger, some time after the call; alone, each call hands its record to the
logger itself. Sinks answer as they like in both, and records are made on any thread at any time.
This file fixes

* `Op` -- what a program does: it changes the fields in force, or logs;
* `Concert` with its steps -- the programs before the queue (`Traffic`), its worker, and what the
  sinks were asked;
* `Alone` with its steps -- one program after another, on the logger itself;
* `told`, `fieldsAfter` -- what a sequence of operations logs, and the fields it leaves in force;
* `journal_of_run` -- **what it does alone**.

NOT here: shutdown and flushes, and a logger that changes on the way.
-/

namespace Logworks.Delivery

open Fanout

/-! ## 1. Programs -/

/-- What a program does next. -/
inductive Op where
  | set (key value : String)
  | remove (key : String)
  | clear
  /-- Sets a field for the life of a new guard. -/
  | push (key value : String)
  /-- Drops a guard. -/
  | drop (index : Nat)
  | log (level : Level) (message : String)
  deriving DecidableEq, Repr

/-- The operation logs. -/
def Op.isLog : Op → Bool
  | log .. => true
  | _ => false

/-- What an operation does to the fields in force. -/
def Op.act (a : Ambient) : Op → Ambient
  | set key value => a.set key value
  | remove key => a.remove key
  | clear => a.clear
  | push key value => a.push key value
  | drop index => a.drop index
  | log .. => a

/-- The operations of one producer, among those of all. -/
def opsOf (w : List (Nat × Op)) (i : Nat) : List Op :=
  w.filterMap fun p => if p.1 = i then some p.2 else none

@[simp] theorem opsOf_concat_self (w : List (Nat × Op)) (i : Nat) (op : Op) :
    opsOf (w ++ [(i, op)]) i = opsOf w i ++ [op] := by
  simp [opsOf]

theorem opsOf_concat_of_ne (w : List (Nat × Op)) {i j : Nat} (op : Op) (h : j ≠ i) :
    opsOf (w ++ [(i, op)]) j = opsOf w j := by
  simp [opsOf, Ne.symm h]

variable {π ι : Type}

/-- What an operation lets be logged, past the level of the logger. -/
def Op.post? (l : Logger π ι) (a : Ambient) : Op → Option Post
  | log level message => if l.isEnabled level then some ⟨level, message, a.fields⟩ else none
  | _ => none

/-- The fields in force after some operations. -/
def fieldsAfter (a : Nat → Ambient) (w : List (Nat × Op)) : Nat → Ambient :=
  w.foldl (fun a p => Function.update a p.1 (p.2.act (a p.1))) a

/-- What some operations let be logged, in order. -/
def told (l : Logger π ι) (a : Nat → Ambient) : List (Nat × Op) → List Post
  | [] => []
  | (i, op) :: w => (op.post? l (a i)).toList ++ told l (Function.update a i (op.act (a i))) w

theorem fieldsAfter_concat (a : Nat → Ambient) (w : List (Nat × Op)) (i : Nat) (op : Op) :
    fieldsAfter a (w ++ [(i, op)]) =
      Function.update (fieldsAfter a w) i (op.act (fieldsAfter a w i)) := by
  rw [fieldsAfter, List.foldl_append]
  rfl

theorem told_concat (l : Logger π ι) (a : Nat → Ambient) (w : List (Nat × Op)) (i : Nat)
    (op : Op) :
    told l a (w ++ [(i, op)]) = told l a w ++ (op.post? l (fieldsAfter a w i)).toList := by
  induction w generalizing a with
  | nil => simp [told, fieldsAfter]
  | cons p w ih => rw [List.cons_append, told, told, ih, List.append_assoc]; rfl

theorem Op.post?_of_not_isLog {op : Op} (h : op.isLog = false) (l : Logger π ι) (a : Ambient) :
    op.post? l a = none := by
  cases op with
  | log level message => cases h
  | set _ _ | remove _ | clear | push _ _ | drop _ => rfl

/-- Logging changes no field. -/
theorem update_act_log (a : Nat → Ambient) (i : Nat) (level : Level) (message : String) :
    Function.update a i ((Op.log level message).act (a i)) = a :=
  Function.update_eq_self i a

/-! ## 2. Before the queue -/

/-- No call of the producer is under way. -/
def Traffic.IsFree (s : Traffic) (i : Nat) : Prop :=
  ∀ c ∈ s.calls, c.caller = i → c.progress = .finished

theorem Traffic.isFree_start {capacity : Nat} {policy : Policy} {m : Metrics} {i : Nat} :
    (Traffic.start capacity policy m).IsFree i := fun _ hc => by cases hc

@[simp] theorem tally_foldl_hear (notes : List Note) (m : Metrics) :
    (notes.foldl Metrics.hear m).tally = m.tally := by
  induction notes generalizing m with
  | nil => rfl
  | cons n notes ih =>
    rw [List.foldl_cons, ih]
    cases n <;> rfl

/-- Producers before a queue. -/
structure Concert (ι : Type) where
  traffic : Traffic
  /-- The fields in force at each producer. -/
  fields : Nat → Ambient
  /-- What each has yet to do. -/
  rest : Nat → List Op
  /-- What the sinks were asked. -/
  journal : List (ι × Call) := []

namespace Concert

/-- Nobody has done anything yet. The queue makes callers wait while it is full. -/
def start (l : Logger π ι) (capacity : Nat) (a : Nat → Ambient) (program : Nat → List Op) :
    Concert ι where
  traffic := .start capacity .block l.metrics
  fields := a
  rest := program

/-- One step of one producer, or of the worker. -/
inductive Step (l : Logger π ι) (trees : List (SinkTree ι)) (eval : π → Scene → Trial) :
    Concert ι → Concert ι → Prop where
  | act (s : Concert ι) (i : Nat) (op : Op) (ops : List Op) (free : s.traffic.IsFree i)
      (hr : s.rest i = op :: ops) (hop : op.isLog = false) :
      Step l trees eval s { s with
        fields := Function.update s.fields i (op.act (s.fields i))
        rest := Function.update s.rest i ops }
  /-- Below the level of the logger a call does nothing. -/
  | pass (s : Concert ι) (i : Nat) (level : Level) (message : String) (ops : List Op)
      (free : s.traffic.IsFree i) (hr : s.rest i = .log level message :: ops)
      (off : l.isEnabled level = false) :
      Step l trees eval s { s with rest := Function.update s.rest i ops }
  /-- A call begins, and takes the fields in force with it. -/
  | log (s : Concert ι) (i : Nat) (level : Level) (message : String) (ops : List Op)
      (free : s.traffic.IsFree i) (hr : s.rest i = .log level message :: ops)
      (on : l.isEnabled level = true) :
      Step l trees eval s { s with
        traffic := s.traffic.begin i ⟨level, message, (s.fields i).fields⟩
        rest := Function.update s.rest i ops }
  | produce (s : Concert ι) (k : Nat) (c : LogCall) (next : Producer) (q : Queue)
      (notes : List Note) (hc : s.traffic.calls[k]? = some c)
      (h : c.progress.step? s.traffic.queue = some (next, q, notes)) :
      Step l trees eval s { s with traffic := s.traffic.advance k c next q notes }
  | work (s : Concert ι) (w : Worker) (q : Queue) (notes : List Note)
      (h : s.traffic.worker.step? s.traffic.queue = some (w, q, notes)) :
      Step l trees eval s { s with traffic := { s.traffic with
        worker := w, queue := q, metrics := notes.foldl Metrics.hear s.traffic.metrics
        ledger := s.traffic.ledger.afterWork s.traffic.queue q } }
  /-- The worker calls the logger with the record it took. -/
  | deliver (s : Concert ι) (p : Post) (isDraining : Bool) (thread : Option String)
      (time : Time.Instant) (σ : Type) (sinks : Round.Runner ι σ) (x : σ) (t : Minutes ι σ)
      (thrown : Option Payload) (hw : s.traffic.worker = .delivering p isDraining)
      (h : (l.logRound trees eval ⟨p.ambient, thread, time⟩ ⟨p.level, p.message, {}⟩).run
        sinks.recording ⟨x, [], []⟩ = (.ended thrown, t)) :
      Step l trees eval s { s with
        traffic := { s.traffic with
          worker := s.traffic.worker.delivered thrown
          metrics := t.events.foldl Metrics.note s.traffic.metrics
          ledger := s.traffic.ledger.dispatch p }
        journal := s.journal ++ t.calls }

/-- What the steps lead to. -/
inductive Reachable (l : Logger π ι) (trees : List (SinkTree ι)) (eval : π → Scene → Trial)
    (s₀ : Concert ι) : Concert ι → Prop where
  | start : Reachable l trees eval s₀ s₀
  | step (s t : Concert ι) (h : Reachable l trees eval s₀ s) (hs : Step l trees eval s t) :
      Reachable l trees eval s₀ t

variable {l : Logger π ι} {trees : List (SinkTree ι)} {eval : π → Scene → Trial}
  {s t s₀ : Concert ι}

/-- To the queue, a step is one of its own, or none. -/
theorem traffic_step (h : Step l trees eval s t) :
    t.traffic = s.traffic ∨ s.traffic.Step t.traffic := by
  cases h with
  | act _ _ _ _ _ _ => exact .inl rfl
  | pass _ _ _ _ _ _ _ => exact .inl rfl
  | log i level message ops free hr on => exact .inr (.call _ _ _ free)
  | produce k c next q notes hc h => exact .inr (.produce _ _ _ _ _ _ hc h)
  | work w q notes h => exact .inr (.work _ _ _ _ h)
  | deliver p isDraining thread time σ sinks x t thrown hw h =>
    exact .inr (.deliver _ p isDraining thrown t.events hw)

theorem traffic_of_reachable (h : Reachable l trees eval s₀ s) :
    Traffic.Reachable s₀.traffic s.traffic := by
  induction h with
  | start => exact .start
  | step s t _ hs ih =>
    rcases traffic_step hs with e | hs
    · rw [e]
      exact ih
    · exact .step _ _ ih hs

end Concert

/-! ## 3. Alone -/

/-- Producers that call the logger themselves. -/
structure Alone (ι : Type) where
  fields : Nat → Ambient
  metrics : Metrics
  journal : List (ι × Call) := []

namespace Alone

/-- An operation of a producer. -/
inductive Step (l : Logger π ι) (trees : List (SinkTree ι)) (eval : π → Scene → Trial) :
    Nat × Op → Alone ι → Alone ι → Prop where
  | act (s : Alone ι) (i : Nat) (op : Op) (hop : op.isLog = false) :
      Step l trees eval (i, op) s
        { s with fields := Function.update s.fields i (op.act (s.fields i)) }
  | log (s : Alone ι) (i : Nat) (level : Level) (message : String) (thread : Option String)
      (time : Time.Instant) (σ : Type) (sinks : Round.Runner ι σ) (x : σ) (t : Minutes ι σ)
      (thrown : Option Payload)
      (h : (l.logRound trees eval ⟨(s.fields i).fields, thread, time⟩ ⟨level, message, {}⟩).run
        sinks.recording ⟨x, [], []⟩ = (.ended thrown, t)) :
      Step l trees eval (i, .log level message) s { s with
        metrics := t.events.foldl Metrics.note s.metrics
        journal := s.journal ++ t.calls }

/-- Some operations, one after the other. -/
inductive Run (l : Logger π ι) (trees : List (SinkTree ι)) (eval : π → Scene → Trial) :
    List (Nat × Op) → Alone ι → Alone ι → Prop where
  | nil (s : Alone ι) : Run l trees eval [] s s
  | cons (p : Nat × Op) (w : List (Nat × Op)) (s t u : Alone ι) (hs : Step l trees eval p s t)
      (h : Run l trees eval w t u) : Run l trees eval (p :: w) s u

variable {l : Logger π ι} {trees : List (SinkTree ι)} {eval : π → Scene → Trial}

/-- Any sequence of operations can be run. -/
theorem exists_run (w : List (Nat × Op)) (s : Alone ι) : ∃ t, Run l trees eval w s t := by
  induction w generalizing s with
  | nil => exact ⟨s, .nil s⟩
  | cons p w ih =>
    obtain ⟨i, op⟩ := p
    have first : ∃ t, Step l trees eval (i, op) s t := by
      cases hop : op.isLog with
      | false => exact ⟨_, .act s i op hop⟩
      | true =>
        cases op with
        | log level message =>
          obtain ⟨thrown, t, ht⟩ := Round.exists_run_obliging
            (l.logRound trees eval ⟨(s.fields i).fields, none, ⟨0, 0⟩⟩ ⟨level, message, {}⟩)
            ⟨(), [], []⟩
          exact ⟨_, .log s i level message none ⟨0, 0⟩ Unit (Round.obliging ι) () t thrown ht⟩
        | set _ _ | remove _ | clear | push _ _ | drop _ => cases hop
    obtain ⟨t, ht⟩ := first
    obtain ⟨u, hu⟩ := ih t
    exact ⟨u, .cons _ w s t u ht hu⟩

/-- What an operation does: its post, if it has one, is ruled on. -/
theorem journal_of_step (hpure : l.admission.Pure eval) {i : Nat} {op : Op} {s t : Alone ι}
    (h : Step l trees eval (i, op) s t) :
    t.fields = Function.update s.fields i (op.act (s.fields i)) ∧
      t.journal = s.journal ++ (op.post? l (s.fields i)).toList.flatMap (l.asks trees eval) ∧
      t.metrics.tally = (op.post? l (s.fields i)).toList.foldl (l.ruled eval) s.metrics.tally ∧
      t.metrics.dropped = s.metrics.dropped := by
  cases h with
  | act _ _ op hop => exact ⟨rfl, by simp [Op.post?_of_not_isLog hop], by
      simp [Op.post?_of_not_isLog hop], rfl⟩
  | log _ _ level message thread time σ sinks x t thrown h =>
    obtain ⟨cs, es, hc, ecs, ees⟩ := Round.course_of_run sinks h
    obtain ⟨_, easks, hruled⟩ :=
      Logger.course_post (p := ⟨level, message, (s.fields i).fields⟩) hpure hc
    rw [List.nil_append] at ecs ees
    refine ⟨(update_act_log _ i level message).symm, ?_, ?_, dropped_foldl_note _ _⟩
    · show s.journal ++ t.calls = _
      rw [ecs, easks, Op.post?]
      split
      · simp
      · rename_i hoff
        simp [Logger.asks, hoff]
    · show (t.events.foldl Metrics.note s.metrics).tally = _
      rw [ees, hruled, Op.post?]
      split
      · rfl
      · rename_i hoff
        simp [Logger.ruled, hoff]

/-- **What some operations do alone**: what they log is ruled on, post by post. -/
theorem journal_of_run (hpure : l.admission.Pure eval) {w : List (Nat × Op)} {s t : Alone ι}
    (h : Run l trees eval w s t) :
    t.fields = fieldsAfter s.fields w ∧
      t.journal = s.journal ++ (told l s.fields w).flatMap (l.asks trees eval) ∧
      t.metrics.tally = (told l s.fields w).foldl (l.ruled eval) s.metrics.tally ∧
      t.metrics.dropped = s.metrics.dropped := by
  induction h with
  | nil s => exact ⟨rfl, (List.append_nil _).symm, rfl, rfl⟩
  | cons p w s t u hs _ ih =>
    obtain ⟨i, op⟩ := p
    obtain ⟨ef, ej, em, ed⟩ := journal_of_step hpure hs
    obtain ⟨ef', ej', em', ed'⟩ := ih
    rw [ef] at ef' ej' em'
    refine ⟨ef', ?_, ?_, ed'.trans ed⟩
    · rw [ej', ej, told, List.flatMap_append, List.append_assoc]
    · rw [em', em, told, List.foldl_append]

end Alone

end Logworks.Delivery
