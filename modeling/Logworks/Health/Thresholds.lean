import Logworks.Health.Grade
import Logworks.Json.Reader

/-!
# Thresholds of health

Two thresholds for each of the four quantities a logger is judged by: the share of records lost,
the share that failed, the longest delivery in microseconds, and the share of the queue in use.
-/

namespace Logworks.Health

open Logworks.Number Logworks.Json

structure Thresholds where
  dropHealthy : Binary64 := .ofDecimal false 1 (-2)
  dropDegraded : Binary64 := .ofDecimal false 5 (-2)
  errorHealthy : Binary64 := .ofDecimal false 1 (-3)
  errorDegraded : Binary64 := .ofDecimal false 1 (-2)
  latencyHealthy : Nat := 10000
  latencyDegraded : Nat := 50000
  usageHealthy : Binary64 := .ofDecimal false 7 (-1)
  usageDegraded : Binary64 := .ofDecimal false 9 (-1)
  deriving DecidableEq, Repr

namespace Thresholds

/-- A threshold with the value it is to have. -/
inductive Entry where
  | dropHealthy (x : Binary64)
  | dropDegraded (x : Binary64)
  | errorHealthy (x : Binary64)
  | errorDegraded (x : Binary64)
  | latencyHealthy (n : Nat)
  | latencyDegraded (n : Nat)
  | usageHealthy (x : Binary64)
  | usageDegraded (x : Binary64)

def set (t : Thresholds) : Entry → Thresholds
  | .dropHealthy x => { t with dropHealthy := x }
  | .dropDegraded x => { t with dropDegraded := x }
  | .errorHealthy x => { t with errorHealthy := x }
  | .errorDegraded x => { t with errorDegraded := x }
  | .latencyHealthy n => { t with latencyHealthy := n }
  | .latencyDegraded n => { t with latencyDegraded := n }
  | .usageHealthy x => { t with usageHealthy := x }
  | .usageDegraded x => { t with usageDegraded := x }

def fields : List (Reader.Field Entry) :=
  [⟨"max_drop_rate_healthy", Reader.double.map .dropHealthy⟩,
   ⟨"max_drop_rate_degraded", Reader.double.map .dropDegraded⟩,
   ⟨"max_error_rate_healthy", Reader.double.map .errorHealthy⟩,
   ⟨"max_error_rate_degraded", Reader.double.map .errorDegraded⟩,
   ⟨"max_latency_us_healthy", (Reader.word64 "u64").map .latencyHealthy⟩,
   ⟨"max_latency_us_degraded", (Reader.word64 "u64").map .latencyDegraded⟩,
   ⟨"max_queue_usage_healthy", Reader.double.map .usageHealthy⟩,
   ⟨"max_queue_usage_degraded", Reader.double.map .usageDegraded⟩]

def reader : Reader Thresholds :=
  (Reader.record "HealthCheckConfig" ⟨false, false⟩ fields).map fun entries =>
    entries.foldl (fun t e => t.set e.2) {}

end Thresholds

end Logworks.Health
