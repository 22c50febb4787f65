import Logworks.Session.Basic

/-!
# Rounds in a session

A round runs on the thread of a caller or on that of a worker. A sink holds it up while its gate
is closed, or while it waits for a pipe that it shuts down; everything else answers at once. This
file fixes

* `Session.strike` -- a sink is called, the gate being open;
* `Session.runner` -- what runs a round for a logger;
* `Session.closeStep?` -- the next step of a shutdown;
* `Session.advance?` and `Session.settle` -- **the workers do what they can, each command in its
  turn, until all wait or have ended**.
-/

namespace Logworks.Session

open Fanout Delivery

/-! ## Notes of a pipe -/

/-- What is said of losses. -/
def lossNotice (logger : String) (count : Nat) : Notice :=
  .warning ("Queue full for logger '" ++ logger ++ "', " ++ toString count ++
    " logs dropped. Consider increasing queue capacity or using a different overflow policy.")

/-- A loss is told if it is the first, and then each thousandth. -/
def isTold (count : Nat) : Bool := count == 1 || count % 1000 == 0

def loggerName (s : Session) (n : Nat) : String := ((s.loggers.get? n).map Logger.name).getD ""

def changePipe (s : Session) (n : Nat) (f : Pipe → Pipe) : Session :=
  match s.pipes.get? n with
  | some p => { s with pipes := s.pipes.set n (f p) }
  | none => s

/-- What is said and told of a loud loss. -/
def raise (s : Session) (pipe logger count : Nat) : Session :=
  if isTold count then
    (s.tell [lossNotice (s.loggerName logger) count]).changePipe pipe fun p =>
      if p.isHeard then { p with heard := p.heard ++ [count] } else p
  else s

def applyNote (s : Session) (pipe logger : Nat) : Note → Session
  | .depth n => s.changeMetrics logger fun m => m.recordQueueDepth n
  | .lost _ isLoud =>
    let count := ((s.metricsOf logger).map Metrics.dropped).getD 0 + 1
    let s := s.changeMetrics logger Metrics.recordDropped
    if isLoud then s.raise pipe logger count else s

def applyNotes (s : Session) (pipe logger : Nat) (ns : List Note) : Session :=
  ns.foldl (fun s n => s.applyNote pipe logger n) s

/-! ## Calls -/

/-- Changes a sink that keeps what it is given. -/
def alterCapture (s : Session) (n : Nat) (f : Sink.Capture → Sink.Capture) : Session :=
  match s.sinks.get? n with
  | some ⟨threshold, .capture c⟩ => s.setSink n ⟨threshold, .capture (f c)⟩
  | _ => s

/-- Calls a sink whose gate is open. -/
def strike (s : Session) (n : Nat) (what : Call) : Outcome × Session :=
  match s.sinks.get? n with
  | none => (.ok, s)
  | some k =>
    let p := k.perform what s.site
    (p.outcome, { s.setSink n { k with kind := p.kind } with site := p.site })

/-- A record comes to a gate. -/
def arrive (s : Session) (n : Nat) : Call → Session
  | .flush => s
  | .log .. => s.alterCapture n Sink.Capture.arrive

/-- Whether a gate holds a call up. -/
def holdsUp (s : Session) (n : Nat) : Call → Bool
  | .flush => false
  | .log .. =>
    match s.sinks.get? n with
    | some ⟨_, .capture c⟩ => c.isClosed
    | _ => false

/-- The pipe that a sink shuts down at its next record, as long as that pipe has a name. -/
def stopOf? (s : Session) (n : Nat) : Call → Option Nat
  | .flush => none
  | .log .. =>
    match s.sinks.get? n with
    | some ⟨_, .capture c⟩ => c.stops.filter fun pipe => s.pipeNames.any (·.2 == pipe)
    | _ => none

/-- A sink begins its shutdown. It will not begin another one by itself. -/
def beginStop (s : Session) (n : Nat) : Session :=
  s.alterCapture n fun c => { c with stops := none }

/-- A sink keeps the answer to its shutdown. -/
def endStop (s : Session) (n : Nat) (isDown : Bool) : Session :=
  s.alterCapture n fun c => { c with stopAnswers := c.stopAnswers ++ [isDown] }

/-- What runs a round, for a logger if there is one. -/
def runner (logger : Option Nat) : Round.Runner Nat Session where
  perform n what s :=
    let s := s.arrive n what
    if s.holdsUp n what || (s.stopOf? n what).isSome then (none, s)
    else
      let (o, s) := s.strike n what
      (some o, s)
  note e s :=
    let s := match logger with
      | some l => s.changeMetrics l fun m => m.note e
      | none => s
    match e with
    | .notice n => s.tell [n]
    | .mark tag => { s with marks := s.marks ++ [tag] }
    | _ => s

/-! ## Shutdowns -/

/-- The limit of a wait that was given none. -/
def standardLimit : String := "5s"

/-- What is said of losses when a pipe is shut down. -/
def lossSummary (logger : String) (m : Metrics) : List Notice :=
  if m.dropped = 0 then []
  else [.warning ("Logger '" ++ logger ++ "' shutting down with " ++ toString m.dropped ++
    " dropped logs (drop rate: " ++ Health.percentText m.dropRate ++ ")")]

/-- The next step of a shutdown. -/
def closeStep? (s : Session) (n : Nat) (c : Closer) : Option (Closer × Session) :=
  match s.pipes.get? n with
  | none => none
  | some p =>
    let name := s.loggerName p.logger
    let last := lossSummary name ((s.metricsOf p.logger).getD {})
    (c.step? name last p.worker p.queue).map fun (c, q, ns) =>
      (c, (s.changePipe n fun p => { p with queue := q }).tell ns)

/-- The limit of a shutdown has come, where it waits. -/
def closeExpire (s : Session) (n : Nat) (limit : String) (c : Closer) : Closer × Session :=
  let logger := ((s.pipes.get? n).map fun p => s.loggerName p.logger).getD ""
  let (c, ns) := c.expire logger limit
  (c, s.tell ns)

/-! ## Workers -/

/-- Where a worker makes the record of a post. -/
def workerSetting (s : Session) (logger : String) (p : Post) : Setting :=
  ⟨p.ambient, some (logger ++ "-async"), s.site.time⟩

def closingNotice (logger : String) (f : Fault) : Notice :=
  .error ("Failed to flush logger '" ++ logger ++ "' during shutdown: " ++ f.message)

/-- What is said when the last flush failed. -/
def closingNotices (logger : String) : Worker → Outcome → List Notice
  | .closing, .failed f => [closingNotice logger f]
  | _, _ => []

/-- The worker goes on after its round. -/
def finishJob (s : Session) (n : Nat) (p : Pipe) : Job → Session
  | .delivered thrown => s.changePipe n fun p => { p with worker := p.worker.delivered thrown }
  | .flushed o =>
    (s.tell (closingNotices (s.loggerName p.logger) p.worker o)).changePipe n fun p =>
      let (w, q) := p.worker.flushed p.queue o
      { p with worker := w, queue := q }

/-- A round on the thread of a worker. -/
def runWorker (s : Session) (n : Nat) (p : Pipe) (r : Round Nat Job) : Session :=
  match r.run (runner (some p.logger)) s with
  | (.ended j, s) => s.finishJob n p j
  | (.held sink what next, s) =>
    s.changePipe n fun p => { p with held := some { sink, what, next } }

/-- The round a worker is about to run. -/
def jobRound? (s : Session) (p : Pipe) (l : Logger Predicate Nat) : Option (Round Nat Job) :=
  match p.worker with
  | .delivering post _ =>
    some ((l.logRound (s.treesOf l) Predicate.eval (s.workerSetting l.name post)
      ⟨post.level, post.message, {}⟩).bind fun thrown => .done (.delivered thrown))
  | .answering _ | .closing =>
    some ((Logger.flushRound (s.treesOf l)).bind fun o => .done (.flushed o))
  | _ => none

/-- A logger is taken while a worker is held up in one of its rounds, or a caller is. -/
def isBusy (s : Session) (logger : Nat) : Bool :=
  s.engaged == some logger || s.pipes.numbers.any fun n =>
    ((s.pipes.get? n).map fun p => p.logger == logger && p.held.isSome).getD false

/-- Whether a worker is about to take its logger. It looks at the level of a record before that. -/
def takesLogger (l : Logger Predicate Nat) : Worker → Bool
  | .delivering post _ => l.isEnabled post.level
  | _ => true

/-- The next step of a worker that is not held up. -/
def advanceFree? (s : Session) (n : Nat) (p : Pipe) : Option Session :=
  match p.worker.step? p.queue with
  | some (w, q, notes) =>
    some ((s.changePipe n fun p => { p with worker := w, queue := q }).applyNotes n p.logger notes)
  | none =>
    match s.loggers.get? p.logger with
    | none => none
    | some l =>
      match s.jobRound? p l with
      | some r =>
        if takesLogger l p.worker && s.isBusy p.logger then none else some (s.runWorker n p r)
      | none => none

/-- Where the shutdown stands that a worker waits for inside a sink. -/
def setClosing (s : Session) (n : Nat) (h : Held) (pipe : Nat) (c : Closer) : Session :=
  s.changePipe n fun p => { p with held := some { h with closing := some (pipe, c) } }

/-- The call that held a worker up is made, and its round goes on. -/
def resume (s : Session) (n : Nat) (p : Pipe) (h : Held) : Session :=
  let s := s.changePipe n fun p => { p with held := none }
  let (o, s) := s.strike h.sink h.what
  s.runWorker n p (h.next o)

/-- The next step of a worker that is held up. A shutdown of its own pipe is one on the worker. -/
def advanceHeld? (s : Session) (n : Nat) (p : Pipe) (h : Held) : Option Session :=
  match h.closing with
  | none =>
    if s.holdsUp h.sink h.what then none
    else match s.stopOf? h.sink h.what with
      | some pipe => some ((s.beginStop h.sink).setClosing n h pipe (.fresh (pipe == n)))
      | none => some (s.resume n p h)
  | some (_, .finished isDown) => some ((s.endStop h.sink isDown).resume n p h)
  | some (pipe, c) => (s.closeStep? pipe c).map fun (c, s) => s.setClosing n h pipe c

/-- The next step of the worker of a pipe, if it can take one. -/
def advance? (s : Session) (n : Nat) : Option Session :=
  match s.pipes.get? n with
  | none => none
  | some p =>
    match p.held with
    | none => s.advanceFree? n p
    | some h => s.advanceHeld? n p h

/-- The steps that the workers can take before all wait: a few for each command, and for each call
that is held up on the way. -/
def reach (s : Session) : Nat :=
  s.pipes.numbers.foldl
    (fun k n =>
      k + ((s.pipes.get? n).map fun p => (s.sinks.next + 4) * (p.queue.items.length + 12)).getD 0)
    0

def settleWithin : Nat → Session → Session
  | 0, s => s
  | k + 1, s =>
    match s.pipes.numbers.findSome? s.advance? with
    | some s => settleWithin k s
    | none => s

/-- The workers do what they can. -/
def settle (s : Session) : Session := settleWithin s.reach s

/-! ## Waits -/

/-- The limit comes of the first shutdown that a worker waits for inside a sink. -/
def lapse? (s : Session) : Option Session :=
  s.pipes.numbers.findSome? fun n =>
    match (s.pipes.get? n).bind Pipe.held with
    | none => none
    | some h =>
      match h.closing with
      | none => none
      | some (pipe, c) =>
        let (next, s) := s.closeExpire pipe standardLimit c
        if next = c then none else some (s.setClosing n h pipe next)

def awaitWithin {α : Type} (isLong : Bool) (ready? : Session → Option α) :
    Nat → Session → Except Session α
  | 0, s => .error s
  | k + 1, s =>
    let s := s.settle
    match ready? s with
    | some a => .ok a
    | none =>
      match if isLong then s.lapse? else none with
      | some s => awaitWithin isLong ready? k s
      | none => .error s

/-- A caller waits while the workers do what they can. What does not come then does not come before
the limit, and the session is left as it is by then. The waits of workers began earlier: a long
wait outlasts each of them. -/
def await {α : Type} (s : Session) (isLong : Bool) (ready? : Session → Option α) :
    Except Session α :=
  awaitWithin isLong ready? (2 * s.pipes.next + 1) s

end Logworks.Session
