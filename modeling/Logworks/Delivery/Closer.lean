import Logworks.Delivery.Worker
import Logworks.Notice

/-!
# Shutting down

The first shutdown takes the handle on the worker, stops the queue, puts the mark that ends the
worker into it, waits until the worker is gone, and sums up. One that finds the handle taken has
nothing to do; one on the worker itself is refused. Both waits have a limit. This file fixes

* `Closer` -- how far a call has come;
* `Closer.step?` -- the next step; there is none for a call that waits;
* `Closer.expire` -- the end of a wait.
-/

namespace Logworks.Delivery

inductive Closer where
  | fresh (onWorker : Bool)
  /-- The handle was taken. -/
  | stopping
  /-- The mark is about to be offered. -/
  | marking
  /-- Waits for the end of the worker. -/
  | joining
  /-- The wait is over, and what is to be said last is about to be said. -/
  | parting (isDown : Bool)
  | finished (isDown : Bool)
  deriving DecidableEq, Repr

namespace Closer

def ownWorkerNotice (logger : String) : Notice :=
  .warning ("shutdown() of logger '" ++ logger ++
    "' called from its own worker thread; ignored")

def unmarkedNotice (logger : String) : Notice :=
  .warning ("Could not enqueue shutdown for logger '" ++ logger ++
    "'; worker will stop when idle")

def crashNotice (logger : String) (p : Payload) : Notice :=
  .error ("Async worker of logger '" ++ logger ++ "' panicked: " ++ p.message)

def lateNotice (logger limit : String) : Notice :=
  .warning ("Async worker of logger '" ++ logger ++ "' did not finish within " ++ limit ++
    ". Some logs may be lost.")

/-- The next step, before what is to be said last. -/
def step? (logger : String) (last : List Notice) (w : Worker) (q : Queue) :
    Closer → Option (Closer × Queue × List Notice)
  | fresh onWorker =>
    if !q.hasHandle then some (finished true, q, [])
    else if onWorker then some (finished false, q, [ownWorkerNotice logger])
    else some (stopping, { q with hasHandle := false }, [])
  | stopping => some (marking, { q with isRunning := false }, [])
  | marking => (q.offer? .stop).map fun q => (joining, q, [])
  | joining =>
    match w with
    | .ended => some (parting true, q, [])
    | .crashed p => some (parting false, q, [crashNotice logger p])
    | _ => none
  | parting isDown => some (finished isDown, q, last)
  | finished _ => none

/-- The limit of a wait has come. -/
def expire (logger limit : String) : Closer → Closer × List Notice
  | marking => (joining, [unmarkedNotice logger])
  | joining => (parting false, [lateNotice logger limit])
  | other => (other, [])

def answer? : Closer → Option Bool
  | finished b => some b
  | _ => none

end Closer

end Logworks.Delivery
