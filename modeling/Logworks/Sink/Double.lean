import Logworks.Level
import Logworks.Outcome

/-!
# Stand-ins for sinks

Two sinks to try a pipeline with. One keeps what it is given, and has a gate that can be closed in
front of it: a call waits there. The other never does what it is asked.
-/

namespace Logworks.Sink

/-- A record as a sink is given it. -/
structure Given where
  logger : String
  level : Level
  message : String
  deriving DecidableEq, Repr

/-- Keeps what it is given. -/
structure Capture where
  kept : List Given := []
  isClosed : Bool := false
  /-- The calls that have come to the gate. -/
  arrivals : Nat := 0
  /-- A queue that the next call is to shut down. -/
  stops : Option Nat := none
  /-- What the shutdowns answered. -/
  stopAnswers : List Bool := []
  deriving DecidableEq, Repr

namespace Capture

def arrive (c : Capture) : Capture := { c with arrivals := c.arrivals + 1 }

def keep (threshold : Level) (g : Given) (c : Capture) : Capture :=
  if threshold.admits g.level then { c with kept := c.kept ++ [g] } else c

end Capture

/-- Never does what it is asked. -/
inductive Faulty where
  | fails (f : Fault)
  /-- Throws when it is given a record, and when it is flushed if that is wanted. -/
  | throws (p : Payload) (whenFlushed : Bool)
  deriving DecidableEq, Repr

namespace Faulty

def log : Faulty → Outcome
  | fails f => .failed f
  | throws p _ => .crashed p

def flush : Faulty → Outcome
  | fails f => .failed f
  | throws p true => .crashed p
  | throws _ false => .ok

/-- The ways of failing by their names; another name is a text to fail with. -/
def ofMode (mode : String) (whenFlushed : Bool) : Faulty :=
  match mode with
  | "unavailable" => fails (.unavailable "broken")
  | "network" => fails (.network "host:1" "down")
  | "stopped" => fails .stopped
  | "panic_str" => throws (.text "sink exploded") whenFlushed
  | "panic_string" => throws (.text "3 items") whenFlushed
  | "panic_other" => throws .other whenFlushed
  | other => fails (.other other)

end Faulty

end Logworks.Sink
