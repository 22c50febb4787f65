import Logworks.Delivery.Queue
import Logworks.Outcome

/-!
# Waiting for a flush

A flush puts a mark into the queue and waits until the worker has come to it. Where no worker is
to be expected, and where the mark was thrown out, the caller flushes the logger itself. Both waits
have a limit. This file fixes

* `Flusher` -- how far a call has come;
* `Flusher.step?` -- the next step on the queue; there is none for a call that waits;
* `Flusher.expire` -- the end of a wait.
-/

namespace Logworks.Delivery

inductive Flusher where
  | fresh (onWorker : Bool)
  /-- The mark is about to be offered. -/
  | marking
  | waiting (ticket : Nat)
  /-- The caller flushes the logger itself. -/
  | alone
  | finished (o : Outcome)
  deriving DecidableEq, Repr

namespace Flusher

/-- The answer to the holder of a ticket, if it is there. -/
def told (q : Queue) (ticket : Nat) : Option Flusher :=
  match q.answers.lookup ticket with
  | some (.flushed (.ok ())) => some (finished .ok)
  | some (.flushed (.error f)) => some (finished (.failed f))
  | some .released => some alone
  | none => none

def step? (q : Queue) : Flusher → Option (Flusher × Queue)
  | fresh onWorker => some (if !q.isRunning || (q.hasHandle && onWorker) then alone else marking, q)
  | marking =>
    (q.offer? (.flush q.tickets)).map fun r =>
      (waiting q.tickets, { r with tickets := q.tickets + 1 })
  | waiting ticket => (told q ticket).map fun f => (f, q)
  | alone | finished _ => none

/-- The limit of a wait has come. -/
def expire (logger limit : String) (q : Queue) : Flusher → Flusher
  | marking => finished (.failed (.queueFull q.items.length q.capacity))
  | waiting _ => finished (.failed (.other
      ("flush of logger '" ++ logger ++ "' timed out after " ++ limit)))
  | other => other

/-- The outcome, once there is one. -/
def outcome? : Flusher → Option Outcome
  | finished o => some o
  | _ => none

end Flusher

end Logworks.Delivery
