import Logworks.Delivery.Queue
import Logworks.Outcome

/-!
# The worker

The worker takes commands from the front of the queue, one after the other. A mark that ends it
makes it empty the queue first; so does a queue that was stopped and has run empty. Before it ends
it flushes the logger. A predicate that throws ends it at once, and so does a sink that throws
when it is flushed. This file fixes

* `Worker` -- what it is about to do;
* `Worker.step?` -- its next step on the queue; there is none while it waits, or is busy with the
  logger, or has ended;
* `Worker.delivered`, `Worker.flushed` -- how it goes on when the logger is done.
-/

namespace Logworks.Delivery

inductive Worker where
  | idle
  /-- A record was taken and is being delivered. -/
  | delivering (p : Post) (isDraining : Bool)
  /-- The logger is being flushed for the holder of a ticket. -/
  | answering (ticket : Nat)
  /-- The queue is being emptied. -/
  | draining
  /-- The queue is empty, and the logger is being flushed for the last time. -/
  | closing
  | ended
  | crashed (p : Payload)
  deriving DecidableEq, Repr

namespace Worker

/-- The worker is gone. -/
def isOver : Worker → Bool
  | ended | crashed _ => true
  | _ => false

/-- What a worker does with a command it waited for. -/
def receive (q : Queue) : Command → Worker × Queue × List Note
  | .post p => (delivering p false, q, [.depth q.items.length])
  | .flush ticket => (answering ticket, q, [])
  | .stop => (draining, q, [])

/-- What it does with one it finds while it empties the queue. -/
def drain (q : Queue) : Command → Worker × Queue
  | .post p => (delivering p true, q)
  | .flush ticket => (draining, q.answer ticket (.flushed (.ok ())))
  | .stop => (draining, q)

def step? (q : Queue) : Worker → Option (Worker × Queue × List Note)
  | idle =>
    match q.take? with
    | some (c, q) => some (receive q c)
    | none => if q.isRunning then none else some (draining, q, [])
  | draining =>
    match q.take? with
    | some (c, q) =>
      let (w, q) := drain q c
      some (w, q, [])
    | none => some (closing, q, [.depth 0])
  | _ => none

/-- The record was delivered, or a predicate threw. -/
def delivered (w : Worker) (thrown : Option Payload) : Worker :=
  match w, thrown with
  | _, some p => crashed p
  | delivering _ true, none => draining
  | _, none => idle

/-- The answer to the holder of a ticket. -/
def answerOf : Outcome → Answer
  | .ok => .flushed (.ok ())
  | .failed f => .flushed (.error f)
  | .crashed _ => .released

/-- The logger was flushed. -/
def flushed (w : Worker) (q : Queue) (o : Outcome) : Worker × Queue :=
  let q := match w with
    | answering ticket => q.answer ticket (answerOf o)
    | _ => q
  match o, w with
  | .crashed p, _ => (crashed p, q)
  | _, closing => (ended, q)
  | _, _ => (idle, q)

end Worker

end Logworks.Delivery
