import Logworks.Session.Rounds

/-!
# The rounds of callers

A caller logs, flushes, or calls a sink by itself. Where a sink shuts a pipe down on the way the
caller waits for that, holding on to its logger, while the workers go on. This file fixes

* `Session.closeDown` -- the steps of a shutdown that a caller waits for;
* `Session.log`, `Session.flush`, `Session.callSink` -- the rounds of a caller.
-/

namespace Logworks.Session

open Fanout Delivery

/-! ## Shutdowns -/

/-- A shutdown that can take no step waits up to its limit. -/
def closeWait (s : Session) (n : Nat) (limit : String) (c : Closer) : Closer × Session :=
  match s.await (limit == standardLimit) fun s => s.closeStep? n c with
  | .ok next => next
  | .error s => s.closeExpire n limit c

/-- Takes the steps of a shutdown, at most so many. -/
def closeDown (n : Nat) (limit : String) : Nat → Closer → Session → Closer × Session
  | 0, c, s => (c, s)
  | _ + 1, .finished b, s => (.finished b, s)
  | k + 1, c, s =>
    let (c, s) := (s.closeStep? n c).getD (s.closeWait n limit c)
    closeDown n limit k c s

/-- The most steps of a shutdown. -/
def closeReach : Nat := 6

/-- Shuts a pipe down; whether its worker is known to be gone. -/
def shutDown (s : Session) (n : Nat) (limit : String) : Bool × Session :=
  let (c, s) := closeDown n limit closeReach (.fresh false) s
  (c.answer?.getD true, s)

/-! ## Rounds -/

/-- A sink shuts a pipe down on the thread of a caller who is in a round of a logger. -/
def stopFromSink (s : Session) (logger : Option Nat) (sink pipe : Nat) : Session :=
  let (isDown, s) := { s.beginStop sink with engaged := logger }.shutDown pipe standardLimit
  { s with engaged := none }.endStop sink isDown

def runCallerWithin {α : Type} (logger : Option Nat) :
    Nat → Round Nat α → Session → Option α × Session
  | 0, _, s => (none, s)
  | k + 1, r, s =>
    match r.run (runner logger) s with
    | (.ended a, s) => (some a, s)
    | (.held n what next, s) =>
      if s.holdsUp n what then (none, s)
      else match s.stopOf? n what with
        | none => (none, s)
        | some pipe =>
          let (o, s) := (s.stopFromSink logger n pipe).strike n what
          runCallerWithin logger k (next o) s

/-- A round on the thread of a caller; one that is held up by a gate never ends. Each sink shuts a
pipe down once at most. -/
def runCaller {α : Type} (s : Session) (logger : Option Nat) (r : Round Nat α) :
    Option α × Session :=
  runCallerWithin logger (s.sinks.next + 1) r s

/-- The name of the thread of a caller. -/
def callerName : String := "main"

/-- Where a caller makes a record. -/
def setting (s : Session) : Setting := ⟨s.ambient.fields, some callerName, s.site.time⟩

/-- Logs a record; what a predicate threw is the answer. -/
def logAt (s : Session) (here : Setting) (n : Nat) (d : Draft) : Option Payload × Session :=
  match s.loggers.get? n with
  | none => (none, s)
  | some l =>
    let (r, s) := s.runCaller (some n) (l.logRound (s.treesOf l) Predicate.eval here d)
    (r.join, s)

def log (s : Session) (n : Nat) (d : Draft) : Option Payload × Session := s.logAt s.setting n d

/-- Flushes the sinks of a logger. -/
def flush (s : Session) (n : Nat) : Outcome × Session :=
  match s.loggers.get? n with
  | none => (.ok, s)
  | some l =>
    let (r, s) := s.runCaller (some n) (Logger.flushRound (s.treesOf l))
    (r.getD .ok, s)

/-- Calls a sink by itself. -/
def callSink (s : Session) (n : Nat) (what : Call) : Outcome × Session :=
  let (r, s) := s.runCaller none ((s.tree n).round what)
  (r.getD .ok, s)

end Logworks.Session
