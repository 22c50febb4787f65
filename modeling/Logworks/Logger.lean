import Logworks.Fanout.SinkTree
import Logworks.Filter
import Logworks.Metrics
import Logworks.Text.Quoted

/-!
# Loggers

A logger admits a record by its level, then by its filters, and gives an admitted one to each of
its sinks in order. What a sink does is counted and reported, and reaches neither the other sinks
nor the caller. This file fixes

* `Logger.changed` -- what may be changed about a logger, with a lemma for each of its parts; none
  touches its metrics;
* `Logger.logRound` -- the round of one record: **below the level it is empty; a record that is
  refused reaches no sink; a predicate that throws ends it before anything is counted**;
* `Logger.flushRound` -- every sink is flushed, and the first failure is the answer;
* `Metrics.note` -- what the events of a round do to the metrics.

NOT here: that reporting itself goes wrong. To print a report, to put a fault into words and to
drop what was thrown is taken not to throw.
-/

namespace Logworks

open Logworks.Fanout

/-- A logger over predicates `π` and sinks named by `ι`. -/
structure Logger (π ι : Type) where
  name : String
  level : Level := .trace
  sinks : List ι := []
  admission : Admission π := {}
  /-- Fields put into every record, below those of the call. -/
  context : Fields := {}
  metrics : Metrics := {}

/-- What a caller wants logged. -/
structure Draft where
  level : Level
  message : String
  fields : Fields := {}
  deriving DecidableEq, Repr

/-- Where a record is made: the fields in force, the thread, the time. -/
structure Setting where
  ambient : Fields := {}
  thread : Option String := none
  time : Time.Instant := ⟨0, 0⟩
  deriving DecidableEq, Repr

namespace Metrics

/-- What an event of a round does to the metrics of the logger. The time that passes while a
record is delivered is none here. -/
def note (m : Metrics) : Event → Metrics
  | .notice _ | .mark _ => m
  | .refused => m.recordFiltered
  | .failure => m.recordError
  | .delivered => (m.recordLatency { seconds := 0, nanos := 0 }).recordLogged

end Metrics

namespace Logger

variable {π ι : Type}

/-- A record of this level would not be turned away at once. -/
def isEnabled (l : Logger π ι) (level : Level) : Bool := l.level.admits level

/-- The record of a draft. -/
def recordOf (l : Logger π ι) (time : Time.Instant) (d : Draft) : Record :=
  ⟨l.name, d.level, d.message, d.fields.above l.context, time⟩

/-! ## Changes -/

/-- What may be changed about a logger while it is in use. -/
inductive Change (π ι : Type) where
  | level (level : Level)
  /-- A sink behind those there are. -/
  | addSink (sink : ι)
  | clearSinks
  /-- A filter behind those there are. -/
  | addFilter (f : Filter π)
  /-- The single predicate, in place of the one there was. -/
  | predicate (p : π)
  /-- The single predicate goes, and every filter. -/
  | clearFilters
  | context (fields : Fields)

def changed (l : Logger π ι) : Change π ι → Logger π ι
  | .level level => { l with level }
  | .addSink sink => { l with sinks := l.sinks ++ [sink] }
  | .clearSinks => { l with sinks := [] }
  | .addFilter f => { l with admission.filters := l.admission.filters ++ [f] }
  | .predicate p => { l with admission.predicate := some p }
  | .clearFilters => { l with admission := {} }
  | .context fields => { l with context := fields }

namespace Change

/-- The level it sets. -/
def level? : Change π ι → Option Level
  | .level least => some least
  | _ => none

/-- The sink it adds. -/
def sink? : Change π ι → Option ι
  | .addSink sink => some sink
  | _ => none

/-- The filter it adds. -/
def filter? : Change π ι → Option (Filter π)
  | .addFilter f => some f
  | _ => none

/-- The single predicate it sets. -/
def predicate? : Change π ι → Option π
  | .predicate p => some p
  | _ => none

/-- The fields it sets. -/
def context? : Change π ι → Option Fields
  | .context fields => some fields
  | _ => none

/-- It takes every sink away. -/
def clearsSinks : Change π ι → Bool
  | .clearSinks => true
  | _ => false

/-- It takes every filter away, and the single predicate. -/
def clearsFilters : Change π ι → Bool
  | .clearFilters => true
  | _ => false

end Change

section Changed

variable (l : Logger π ι) (c : Change π ι)

@[simp] theorem name_changed : (l.changed c).name = l.name := by cases c <;> rfl

@[simp] theorem metrics_changed : (l.changed c).metrics = l.metrics := by cases c <;> rfl

@[simp] theorem level_changed : (l.changed c).level = c.level?.getD l.level := by cases c <;> rfl

@[simp] theorem context_changed : (l.changed c).context = c.context?.getD l.context := by
  cases c <;> rfl

/-- A sink comes behind those there are, or all are gone. -/
@[simp] theorem sinks_changed :
    (l.changed c).sinks = if c.clearsSinks then [] else l.sinks ++ c.sink?.toList := by
  cases c <;> simp [changed, Change.clearsSinks, Change.sink?]

/-- So it is with a filter. -/
@[simp] theorem filters_changed :
    (l.changed c).admission.filters =
      if c.clearsFilters then [] else l.admission.filters ++ c.filter?.toList := by
  cases c <;> simp [changed, Change.clearsFilters, Change.filter?]

/-- The single predicate goes with the filters; else the one that is set takes its place. -/
@[simp] theorem predicate_changed :
    (l.changed c).admission.predicate =
      if c.clearsFilters then none else c.predicate?.or l.admission.predicate := by
  cases c <;> rfl

end Changed

/-! ## Records -/

/-- What a logger says about a sink that was given a record. -/
def logReport (logger sink : String) : Outcome → List Event
  | .ok => []
  | .failed f =>
    if f.isUnavailable then [.failure]
    else [.failure, .notice (.error
      ("Sink '" ++ sink ++ "' failed for logger '" ++ logger ++ "': " ++ f.message))]
  | .crashed p =>
    [.failure, .notice (.critical
      ("Sink '" ++ sink ++ "' panicked for logger '" ++ logger ++ "': " ++ p.message ++
        ". Other sinks continue to function."))]

/-- A record goes to every sink. -/
def deliver (r : Record) : List (SinkTree ι) → Round ι Unit
  | [] => .event .delivered (.done ())
  | t :: ts =>
    (t.round (.log r.logger r.level r.message)).bind fun o =>
      .events (logReport r.logger t.name o) (deliver r ts)

/-- The verdict of the filters, where there are any. -/
def trial (l : Logger π ι) (eval : π → Scene → Trial) (s : Setting) (r : Record) : Trial :=
  if l.admission.isActive then l.admission.check eval ⟨r, s.ambient, s.thread⟩
  else ⟨.admits, []⟩

/-- The round of one record, before sinks that are these trees. What a predicate threw is the
answer. -/
def logRound (l : Logger π ι) (trees : List (SinkTree ι)) (eval : π → Scene → Trial) (s : Setting)
    (d : Draft) : Round ι (Option Payload) :=
  if l.isEnabled d.level then
    let r := l.recordOf s.time d
    let t := l.trial eval s r
    .events (t.marks.map .mark)
      (match t.verdict with
      | .throws p => .done (some p)
      | .rejects => .event .refused (.done none)
      | .admits => (deliver r trees).bind fun _ => .done none)
  else .done none

/-- What a logger says about a sink that did not flush. -/
def flushReport (sink : String) (f : Fault) : List Event :=
  [.failure, .notice (.error ("Sink '" ++ sink ++ "' flush failed: " ++ f.message))]

/-- The round of a flush: the first failure is the answer; a crash ends it. -/
def flushRound : List (SinkTree ι) → Round ι Outcome
  | [] => .done .ok
  | t :: ts =>
    (t.round .flush).bind fun
      | .ok => flushRound ts
      | .failed f =>
        .events (flushReport t.name f)
          ((flushRound ts).bind fun
            | .crashed p => .done (.crashed p)
            | _ => .done (.failed f))
      | .crashed p => .done (.crashed p)

/-- A logger in short. -/
def summary (l : Logger π ι) : String :=
  "Logger \x7b name: " ++ Text.quotedString l.name ++ ", min_level: " ++ l.level.title ++
    ", sinks: " ++ toString l.sinks.length ++ ", filters: " ++
    toString l.admission.filters.length ++ " \x7d"

end Logger

end Logworks
