import Logworks.Fault

/-!
# How a call ends

A call on a sink succeeds, fails with a fault, or crashes: code of the host that is called may
throw a value, which ends the call at once.
-/

namespace Logworks

/-- What a crash carries: a text, or something that is none. -/
inductive Payload where
  | text (words : String)
  | other
  deriving DecidableEq, Repr

def Payload.message : Payload → String
  | text words => words
  | other => "Unknown panic"

inductive Outcome where
  | ok
  | failed (f : Fault)
  | crashed (p : Payload)
  deriving DecidableEq, Repr

namespace Outcome

def ofExcept {α : Type} : Except Fault α → Outcome
  | .ok _ => ok
  | .error f => failed f

/-- How many failures an outcome is. -/
def failures : Outcome → Nat
  | ok => 0
  | _ => 1

theorem failures_eq_zero_iff (o : Outcome) : o.failures = 0 ↔ o = ok := by
  cases o <;> simp [failures]

end Outcome

end Logworks
