import Logworks.Level
import Logworks.Notice
import Logworks.Outcome

/-!
# Rounds of calls

A round is a program that calls sinks one after the other and goes on by what each call answered.
In between it lets events be known. Whoever runs it decides what a sink does, and may stop before
a call and go on later. This file fixes

* `Round` with `Round.bind`;
* `Round.run` -- running it against a state, up to the end or to the first sink that holds it up;
* `Round.run_bind` -- **a round behind a round runs where the first one ended**.
-/

namespace Logworks.Fanout

/-- What a sink can be asked to do. -/
inductive Call where
  | log (logger : String) (level : Level) (message : String)
  | flush
  deriving DecidableEq, Repr

/-- What is known of a call on the way. -/
inductive Event where
  | notice (n : Notice)
  /-- A predicate left a mark. -/
  | mark (tag : String)
  /-- The record was refused by a filter. -/
  | refused
  /-- A sink failed, and the logger counts it. -/
  | failure
  /-- The record went to every sink. -/
  | delivered
  deriving DecidableEq, Repr

/-- A program over sinks named by `ι`. -/
inductive Round (ι α : Type) where
  | done (a : α)
  | call (sink : ι) (what : Call) (next : Outcome → Round ι α)
  | event (e : Event) (next : Round ι α)

namespace Round

variable {ι α β σ : Type}

def bind : Round ι α → (α → Round ι β) → Round ι β
  | done a, k => k a
  | call i c next, k => call i c fun o => (next o).bind k
  | event e next, k => event e (next.bind k)

/-- Events before a round. -/
def events (es : List Event) (r : Round ι α) : Round ι α := es.foldr event r

/-! ## Running -/

/-- What a round came to: its end, or a call that has not been made yet. -/
inductive Pause (ι α : Type) where
  | ended (a : α)
  | held (sink : ι) (what : Call) (next : Outcome → Round ι α)

/-- What runs a round: a call gives an outcome, or none if the sink holds the round up. -/
structure Runner (ι σ : Type) where
  perform : ι → Call → σ → Option Outcome × σ
  note : Event → σ → σ

def run (m : Runner ι σ) : Round ι α → σ → Pause ι α × σ
  | done a, s => (.ended a, s)
  | call i c next, s =>
    match m.perform i c s with
    | (some o, s) => (next o).run m s
    | (none, s) => (.held i c next, s)
  | event e next, s => next.run m (m.note e s)

/-- What comes behind a pause. -/
def Pause.andThen (m : Runner ι σ) (k : α → Round ι β) : Pause ι α × σ → Pause ι β × σ
  | (.ended a, s) => (k a).run m s
  | (.held i c next, s) => (.held i c fun o => (next o).bind k, s)

theorem run_bind (m : Runner ι σ) (r : Round ι α) (k : α → Round ι β) (s : σ) :
    (r.bind k).run m s = Pause.andThen m k (r.run m s) := by
  induction r generalizing s with
  | done a => rfl
  | call i c next ih =>
    simp only [bind, run]
    match m.perform i c s with
    | (some o, s) => exact ih o s
    | (none, s) => rfl
  | event e next ih => exact ih (m.note e s)

end Round

end Logworks.Fanout
