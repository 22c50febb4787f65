import Logworks.Session.Calls

/-!
# Pipes in a session

A caller of a pipe takes one step after the other, and the workers go on in between. A wait ends
when the workers can do nothing more for it: then its limit has come. This file fixes

* `Session.post` -- a record is put into the queue;
* `Session.flushPipe` and `Session.beginFlush` -- a flush, waited for here or elsewhere;
* `Session.addPipe` and `Session.dropPipe`.
-/

namespace Logworks.Session

open Fanout Delivery

/-! ## Records -/

/-- The next step of a producer. -/
def produceStep? (n : Nat) (c : Producer) (s : Session) : Option (Producer × Session) :=
  match s.pipes.get? n with
  | none => none
  | some p =>
    (c.step? p.queue).map fun (c, q, notes) =>
      (c, (s.changePipe n fun p => { p with queue := q }).applyNotes n p.logger notes)

/-- A producer that can take no step waits up to its limit, if there is one. -/
def produceWait (n logger : Nat) (c : Producer) (s : Session) :
    Except Session (Producer × Session) :=
  let (next, notes) := c.expire
  if next = c then s.await true (produceStep? n c)
  else .ok (next, s.applyNotes n logger notes)

/-- Takes the steps of a producer, at most so many. -/
def produce (n logger : Nat) : Nat → Producer → Session → Session
  | 0, _, s => s
  | _ + 1, .finished, s => s
  | k + 1, c, s =>
    match produceStep? n c s with
    | some (c, s) => produce n logger k c s
    | none =>
      match produceWait n logger c s with
      | .ok (c, s) => produce n logger k c s
      | .error s => s

/-- Logs a record by way of a pipe. One below the level of the logger takes no room. -/
def post (s : Session) (n : Nat) (level : Level) (message : String) : Session :=
  match s.pipes.get? n with
  | none => s
  | some p =>
    match s.loggers.get? p.logger with
    | none => s
    | some l =>
      if l.isEnabled level then
        let c := Producer.fresh ⟨level, message, s.ambient.fields⟩
        (produce n p.logger (c.reach + 1) c s).settle
      else s

/-! ## Flushes -/

/-- The next step of a flush. -/
def flushStep? (n : Nat) (f : Flusher) (s : Session) : Option (Flusher × Session) :=
  match s.pipes.get? n with
  | none => none
  | some p =>
    match f with
    | .alone =>
      let (o, s) := s.flush p.logger
      some (.finished o, s)
    | _ =>
      (f.step? p.queue).map fun (f, q) =>
        (f, (s.changePipe n fun p => { p with queue := q }).settle)

/-- Takes the steps of a flush, at most so many, until it is done or its wait comes to nothing. -/
def follow (n : Nat) (isLong : Bool) : Nat → Flusher → Session → Flusher × Session
  | 0, f, s => (f, s)
  | _ + 1, .finished o, s => (.finished o, s)
  | k + 1, f, s =>
    match flushStep? n f s with
    | some (f, s) => follow n isLong k f s
    | none =>
      match s.await isLong (flushStep? n f) with
      | .ok (f, s) => follow n isLong k f s
      | .error s => (f, s)

/-- The most steps of a flush. -/
def flushReach : Nat := 5

/-- A flush that is waited for, up to a limit. -/
def endFlush (s : Session) (n : Nat) (limit : String) (f : Flusher) : Outcome × Session :=
  let (f, s) := follow n (limit == standardLimit) flushReach f s
  match s.pipes.get? n with
  | none => (.ok, s)
  | some p => (((f.expire (s.loggerName p.logger) limit p.queue).outcome?).getD .ok, s)

def flushPipe (s : Session) (n : Nat) (limit : String) : Outcome × Session :=
  s.endFlush n limit (.fresh false)

/-- A flush that another thread waits for. -/
def beginFlush (s : Session) (n : Nat) : Session :=
  let (f, s) := follow n false flushReach (.fresh false) s
  { s with waiting := some (n, f) }

/-- The outcome of that flush. -/
def joinFlush (s : Session) : Outcome × Session :=
  match s.waiting with
  | none => (.ok, s)
  | some (n, f) => { s with waiting := none }.endFlush n standardLimit f

/-! ## Pipes come and go -/

/-- Gives up the name of a pipe, and shuts it down. -/
def dropPipe (s : Session) (name : String) : Bool × Session :=
  match s.pipeNames.lookup name with
  | none => (false, s)
  | some n =>
    let (_, s) := { s with pipeNames := s.pipeNames.drop name }.shutDown n standardLimit
    (true, s)

/-- Puts a queue before a logger, and a worker behind it. -/
def addPipe (s : Session) (name : String) (logger capacity : Nat) (policy : Policy)
    (isHeard : Bool) : Except Fault Unit × Session :=
  if capacity = 0 then
    (.error (.configuration "AsyncLogger" "queue capacity must be greater than zero"), s)
  else
    let pipe : Pipe := { logger, queue := { capacity, policy }, isHeard }
    let s := s.changeMetrics logger fun m => m.setQueueCapacity capacity
    (.ok (), { s with pipes := s.pipes.add pipe, pipeNames := s.pipeNames.assign name s.pipes.next })

/-- A pipe in short. -/
def pipeSummary (s : Session) (p : Pipe) : String :=
  "AsyncLogger \x7b logger: " ++ Text.quotedString (s.loggerName p.logger) ++ ", capacity: " ++
    toString p.queue.capacity ++ ", queue_len: " ++ toString p.queue.items.length ++
    ", overflow_policy: " ++ p.queue.policy.text ++ ", running: " ++
    (if p.queue.isRunning then "true" else "false") ++ " \x7d"

end Logworks.Session
