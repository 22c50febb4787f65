import Logworks.Ambient
import Logworks.Delivery.Closer
import Logworks.Delivery.Flusher
import Logworks.Delivery.Producer
import Logworks.Health.Registry
import Logworks.Logger
import Logworks.Predicate
import Logworks.Session.Numbered
import Logworks.Sink.Basic

/-!
# Sessions

A session holds loggers, sinks and pipes under names, and what they share. A pipe is a logger
behind a queue with a worker. Something that has lost its name lives on while something else holds
it: a logger holds its sinks, a branch its children, a pipe its logger. This file fixes

* `Session` and `Pipe`;
* `Session.tree` -- a sink with the sinks it stands for;
* `Session.release` -- holds on sinks are given up one after the other, and **a sink is closed when
  the last hold on it goes**, its children right behind it;
* `Session.sweep` -- pipes and loggers that nothing holds any more are given up.
-/

namespace Logworks

open Fanout Delivery Session

/-- What the round of a worker comes to. -/
inductive Session.Job where
  | delivered (thrown : Option Payload)
  | flushed (o : Outcome)

/-- A round that a sink has held up: its gate is closed, or it waits for a shutdown. -/
structure Session.Held where
  sink : Nat
  what : Call
  next : Outcome → Round Nat Session.Job
  /-- The pipe that the sink shuts down, and how far it has come. -/
  closing : Option (Nat × Closer) := none

/-- A logger behind a queue. -/
structure Session.Pipe where
  logger : Nat
  queue : Queue
  worker : Worker := .idle
  held : Option Session.Held := none
  /-- Whether losses are told, and the counts that were. -/
  isHeard : Bool := false
  heard : List Nat := []

structure Session where
  /-- The directory that relative paths start from. -/
  home : Disk.Path
  site : Site
  sinks : Numbered Sink := {}
  loggers : Numbered (Logger Predicate Nat) := {}
  pipes : Numbered Session.Pipe := {}
  sinkNames : Names := []
  loggerNames : Names := []
  pipeNames : Names := []
  ambient : Ambient := {}
  /-- Fields that belong to nobody. -/
  store : Fields := {}
  registry : Health.Registry := {}
  /-- The marks of predicates since they were last looked at. -/
  marks : List String := []
  /-- A flush that another thread waits for, with the pipe. -/
  waiting : Option (Nat × Flusher) := none
  /-- The logger whose round a caller has not finished yet. -/
  engaged : Option Nat := none

namespace Session

/-- A session in an empty directory. -/
def start (home : String) : Session where
  home := .ofString home
  site := { disk := Disk.fresh home.toList }

def tell (s : Session) (ns : List Notice) : Session := { s with site := s.site.tell ns }

/-- A path as it is seen from the directory of the session. -/
def place (s : Session) (path : String) : Disk.Path := .under s.home (.ofString path)

/-! ## Trees -/

def sinkName (s : Session) (n : Nat) : String := ((s.sinks.get? n).map Sink.name).getD ""

/-- The tree below a sink, down to a depth. -/
def treeTo (s : Session) : Nat → Nat → SinkTree Nat
  | 0, n => .leaf (s.sinkName n) n
  | depth + 1, n =>
    match s.sinks.get? n with
    | some ⟨threshold, .branch children⟩ => .branch threshold (children.map (treeTo s depth))
    | _ => .leaf (s.sinkName n) n

/-- The tree below a sink. No sink comes twice on a way down, so it is no deeper than there are
sinks. -/
def tree (s : Session) (n : Nat) : SinkTree Nat := s.treeTo s.sinks.next n

def treesOf (s : Session) (l : Logger Predicate Nat) : List (SinkTree Nat) := l.sinks.map s.tree

/-! ## What is held -/

/-- A pipe without a name lives until its worker is gone. -/
def heldPipes (s : Session) : List Nat :=
  s.pipes.numbers.filter fun n =>
    s.pipeNames.any (·.2 == n) || ((s.pipes.get? n).map fun p => !p.worker.isOver).getD false

def heldLoggers (s : Session) : List Nat :=
  s.loggerNames.map (·.2) ++
    s.heldPipes.filterMap fun n => (s.pipes.get? n).map Pipe.logger

/-- The children of a sink. -/
def childrenOf : Sink → List Nat
  | ⟨_, .branch children⟩ => children
  | _ => []

/-- The holds that branches have on their children. -/
def branchHolds (s : Session) : List Nat :=
  s.sinks.numbers.flatMap fun n => ((s.sinks.get? n).map childrenOf).getD []

/-- The holds that loggers have on their sinks. -/
def loggerHolds (s : Session) : List Nat :=
  s.loggers.numbers.flatMap fun n => ((s.loggers.get? n).map Logger.sinks).getD []

/-- Something has a hold on a sink. -/
def isHeld (s : Session) (n : Nat) : Bool :=
  s.sinkNames.any (·.2 == n) || s.loggerHolds.contains n || s.branchHolds.contains n

/-- Gives up a sink, leaving the holds it had. -/
def closeSink (s : Session) (n : Nat) : List Nat × Session :=
  match s.sinks.get? n with
  | some k => (childrenOf k, { s with sinks := s.sinks.remove n, site := k.close s.site })
  | none => ([], s)

/-- Gives up some holds in order, at most so many, those of the sinks closed on the way included.
A hold that has yet to be given up keeps its sink open. -/
def releaseWithin : Nat → List Nat → Session → Session
  | 0, _, s | _, [], s => s
  | k + 1, n :: ns, s =>
    if ns.contains n || s.isHeld n then releaseWithin k ns s
    else
      let (children, s) := s.closeSink n
      releaseWithin k (children ++ ns) s

/-- Gives up holds in order. Each branch gives up its own once. -/
def release (s : Session) (ns : List Nat) : Session :=
  releaseWithin (ns.length + s.branchHolds.length) ns s

/-- Gives up a logger, and then its holds. -/
def closeLogger (s : Session) (n : Nat) : Session :=
  let holds := ((s.loggers.get? n).map Logger.sinks).getD []
  { s with loggers := s.loggers.remove n }.release holds

/-- Gives up the pipes and loggers that nothing holds. -/
def sweep (s : Session) : Session :=
  let pipes := s.heldPipes
  let s := { s with pipes :=
    (s.pipes.numbers.filter fun n => !pipes.contains n).foldl Numbered.remove s.pipes }
  let loggers := s.heldLoggers
  (s.loggers.numbers.filter fun n => !loggers.contains n).foldl closeLogger s

/-- Gives up the name of a sink. -/
def dropSinkName (s : Session) (name : String) : Session :=
  { s with sinkNames := s.sinkNames.drop name }.release (s.sinkNames.lookup name).toList

/-! ## Changes -/

def setSink (s : Session) (n : Nat) (k : Sink) : Session := { s with sinks := s.sinks.set n k }

def changeLogger (s : Session) (n : Nat) (f : Logger Predicate Nat → Logger Predicate Nat) :
    Session :=
  match s.loggers.get? n with
  | some l => { s with loggers := s.loggers.set n (f l) }
  | none => s

def changeMetrics (s : Session) (n : Nat) (f : Metrics → Metrics) : Session :=
  s.changeLogger n fun l => { l with metrics := f l.metrics }

/-- The metrics of a logger that is there. -/
def metricsOf (s : Session) (n : Nat) : Option Metrics := (s.loggers.get? n).map Logger.metrics

end Session

end Logworks
