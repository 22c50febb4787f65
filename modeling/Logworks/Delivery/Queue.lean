import Logworks.Delivery.Policy
import Logworks.Fault
import Logworks.Fields
import Logworks.Level

/-!
# The queue

Between those who log and the worker who delivers stands a queue of bounded room. Records travel
in it, and two marks: one that asks for a flush, one that ends the worker. This file fixes

* `Command` and `Queue` with its single steps: `offer` at the back, `take` at the front;
* `Queue.giveUp` -- what becomes of a command that is thrown out: a record is lost, and whoever
  waits for a flush is let go;
* `Note` -- what a step lets be known to the metrics.
-/

namespace Logworks.Delivery

/-- A record on its way: what was logged, and the fields in force where it was. -/
structure Post where
  level : Level
  message : String
  ambient : Fields := {}
  deriving DecidableEq, Repr

inductive Command where
  | post (p : Post)
  /-- Asks for a flush; whoever waits for it holds the ticket. -/
  | flush (ticket : Nat)
  | stop
  deriving DecidableEq, Repr

/-- What the holder of a ticket is told. -/
inductive Answer where
  | flushed (r : Except Fault Unit)
  /-- The mark is gone; nothing was flushed for it. -/
  | released

/-- What a step lets be known. -/
inductive Note where
  /-- The commands in the queue after a step. -/
  | depth (n : Nat)
  /-- A record was given up; loudly, if that may be reported. -/
  | lost (p : Post) (isLoud : Bool)
  deriving DecidableEq, Repr

structure Queue where
  capacity : Nat
  policy : Policy
  items : List Command := []
  /-- Cleared by the first shutdown. -/
  isRunning : Bool := true
  /-- The handle on the worker has not been taken by a shutdown. -/
  hasHandle : Bool := true
  /-- The tickets given out so far. -/
  tickets : Nat := 0
  answers : List (Nat × Answer) := []

namespace Queue

def hasRoom (q : Queue) : Bool := q.items.length < q.capacity

/-- Puts a command at the back, if there is room. -/
def offer? (q : Queue) (c : Command) : Option Queue :=
  if q.hasRoom then some { q with items := q.items ++ [c] } else none

/-- Takes the command at the front. -/
def take? (q : Queue) : Option (Command × Queue) :=
  match q.items with
  | [] => none
  | c :: cs => some (c, { q with items := cs })

/-- Answers the holder of a ticket. -/
def answer (q : Queue) (ticket : Nat) (a : Answer) : Queue :=
  { q with answers := q.answers ++ [(ticket, a)] }

/-- A command that is thrown out. -/
def giveUp (q : Queue) : Command → Queue × List Note
  | .post p => (q, [.lost p false])
  | .flush ticket => (q.answer ticket .released, [])
  | .stop => (q, [])

theorem length_offer? {q r : Queue} {c : Command} (h : q.offer? c = some r) :
    r.items.length ≤ r.capacity := by
  unfold offer? hasRoom at h
  split at h
  · rename_i hlt
    cases h
    simp at hlt ⊢
    omega
  · cases h

end Queue

end Logworks.Delivery
