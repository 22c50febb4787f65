import Logworks.Delivery.Queue

/-!
# Putting a record into the queue

A record is put at the back of the queue if there is room; else the policy says what happens. Each
touch of the queue is a step of its own, so that whatever else goes on may come between any two.
This file fixes

* `Producer` -- how far a call has come;
* `Producer.step?` -- the next step; there is none for a call that waits for room;
* `Producer.expire` -- the end of a wait with a limit.
-/

namespace Logworks.Delivery

/-- How often room is made before a record is given up. -/
def mostTries : Nat := 3

/-- How far a call has come. -/
inductive Producer where
  | fresh (p : Post)
  /-- The queue was seen running. -/
  | admitted (p : Post)
  /-- The oldest command is about to be thrown out; so many tries are left. -/
  | evicting (p : Post) (tries : Nat)
  /-- The record is about to be offered again; so many tries are left, this one included. -/
  | retrying (p : Post) (tries : Nat)
  | waiting (p : Post) (isLimited : Bool)
  | finished
  deriving DecidableEq, Repr

namespace Producer

/-- What follows when the queue is full. -/
def overflow (p : Post) : Policy → Producer × List Note
  | .dropNewest => (finished, [.lost p false])
  | .alertAndDrop => (finished, [.lost p true])
  | .dropOldest => (evicting p mostTries, [])
  | .block => (waiting p false, [])
  | .blockWithin _ => (waiting p true, [])

/-- The record is in the queue. -/
def placed (q : Queue) : Producer × Queue × List Note := (finished, q, [.depth q.items.length])

def step? (q : Queue) : Producer → Option (Producer × Queue × List Note)
  | fresh p =>
    if q.isRunning then some (admitted p, q, []) else some (finished, q, [.lost p false])
  | admitted p =>
    match q.offer? (.post p) with
    | some q => some (placed q)
    | none =>
      let (next, notes) := overflow p q.policy
      some (next, q, notes)
  | evicting p tries =>
    match q.take? with
    | none => some (retrying p tries, q, [])
    | some (c, q) =>
      let (q, notes) := q.giveUp c
      some (retrying p tries, q, notes)
  | retrying p tries =>
    match q.offer? (.post p) with
    | some q => some (placed q)
    | none =>
      match tries with
      | 0 | 1 => some (finished, q, [.lost p false])
      | n + 2 => some (evicting p (n + 1), q, [])
  | waiting p _ => (q.offer? (.post p)).map placed
  | finished => none

/-- The limit of a wait has come: the record is given up. -/
def expire : Producer → Producer × List Note
  | waiting p true => (finished, [.lost p true])
  | other => (other, [])

/-- How many steps a call can take at most, waits apart. -/
def reach : Producer → Nat
  | fresh _ => 2 * mostTries + 3
  | admitted _ => 2 * mostTries + 2
  | evicting _ tries => 2 * tries + 1
  | retrying _ tries => 2 * tries
  | waiting .. => 1
  | finished => 0

end Producer

end Logworks.Delivery
