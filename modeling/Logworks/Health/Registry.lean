import Logworks.Health.Report

/-!
# The registry

Loggers are kept under names, by number, without being kept alive: one that is gone leaves its
name behind until the registry is pruned. This file fixes

* `Registry` -- the names in ascending order, each once, and the thresholds in force;
* `Registry.live` -- the names whose logger is there;
* `Registry.check`, `Registry.checkAll`, `Registry.overall`, `Registry.document`.

Which loggers are there, and their metrics, is given from outside as `find`.
-/

namespace Logworks.Health

open Logworks.Json Logworks.Time

structure Registry where
  thresholds : Thresholds := {}
  entries : List (String × Nat) := []
  deriving DecidableEq, Repr

namespace Registry

/-- Puts an entry where its name belongs, in place of the one of the same name. -/
def insertEntry {α : Type} (name : String) (a : α) : List (String × α) → List (String × α)
  | [] => [(name, a)]
  | e :: es =>
    if name == e.1 then (name, a) :: es
    else if name < e.1 then (name, a) :: e :: es
    else e :: insertEntry name a es

def register (r : Registry) (name : String) (logger : Nat) : Registry :=
  { r with entries := insertEntry name logger r.entries }

def unregister (r : Registry) (name : String) : Registry :=
  { r with entries := r.entries.filter fun e => e.1 != name }

def setThresholds (r : Registry) (t : Thresholds) : Registry := { r with thresholds := t }

def size (r : Registry) : Nat := r.entries.length

/-- How many entries have no logger any more, and the registry without them. -/
def prune (r : Registry) (find : Nat → Option Metrics) : Nat × Registry :=
  let kept := r.entries.filter fun e => (find e.2).isSome
  (r.entries.length - kept.length, { r with entries := kept })

/-! ## Reports -/

/-- The report on metrics; there is none where the counters cannot be added. -/
def reportOn (r : Registry) (time : Instant) (m : Metrics) : Option Report :=
  Report.check? r.thresholds (m.snapshot (.ofNat 1)) m.queueCapacity time

/-- The names whose logger is there, with its metrics. -/
def live (r : Registry) (find : Nat → Option Metrics) : List (String × Metrics) :=
  r.entries.filterMap fun e => (find e.2).map fun m => (e.1, m)

def check (r : Registry) (find : Nat → Option Metrics) (time : Instant) (name : String) :
    Option Report :=
  match r.entries.lookup name with
  | none => some (.unavailable ("Logger not found: " ++ name) time)
  | some logger =>
    match find logger with
    | none => some (.unavailable ("Logger expired: " ++ name) time)
    | some m => r.reportOn time m

/-- The reports on all loggers that are there, by name. -/
def checkAll (r : Registry) (find : Nat → Option Metrics) (time : Instant) :
    Option (List (String × Report)) :=
  (r.live find).mapM fun e => (r.reportOn time e.2).map fun report => (e.1, report)

/-- The worst grade of some reports. -/
def worstOf (reports : List (String × Report)) : Grade :=
  Grade.worst (reports.map fun e => e.2.grade)

def overall (r : Registry) (find : Nat → Option Metrics) (time : Instant) : Option Grade :=
  (r.checkAll find time).map worstOf

/-- The members of one report with the name of its logger among them, by ascending names. -/
def namedMembers (e : String × Report) : List (String × Value) :=
  insertEntry "name" (.text e.1) e.2.members

/-- The document of some reports. -/
def reportsValue (reports : List (String × Report)) : Value :=
  .object [("loggers", .array (reports.map fun e => .object (namedMembers e))),
    ("overall_status", .text (worstOf reports).name)]

def document (r : Registry) (find : Nat → Option Metrics) (time : Instant) : Option Value :=
  (r.checkAll find time).map reportsValue

/-- The document for a name, or for the whole registry. -/
def answer (r : Registry) (find : Nat → Option Metrics) (time : Instant) :
    Option String → Option Value
  | some name => (r.check find time name).map Report.toValue
  | none => r.document find time

end Registry

end Logworks.Health
