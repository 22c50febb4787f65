import Logworks.Time.Span
import Logworks.Number.Binary64

/-!
# Metrics of a logger

Counters of what happened to records, the latency of delivery, and the depth of the queue in
front. Counters and the latency total have sixty-four bits and wrap; a latency too long for them
counts as the longest. This file fixes

* `Metrics` and one operation per event;
* `Metrics.snapshot` -- a copy with the average latency worked out;
* `Metrics.dropRate` -- the share of records lost among those that reached the end either way.
-/

namespace Logworks

open Logworks.Number Logworks.Time Logworks.Json

/-- A number kept in sixty-four bits. -/
def wrapWord (n : Nat) : Nat := n % UInt64.size

@[simp] theorem wrapWord_wrapWord (n : Nat) : wrapWord (wrapWord n) = wrapWord n :=
  Nat.mod_mod n _

/-- A counter counts on as if it had not wrapped. -/
@[simp] theorem wrapWord_wrapWord_add (n k : Nat) : wrapWord (wrapWord n + k) = wrapWord (n + k) :=
  Nat.mod_add_mod n _ k

theorem wrapWord_le (n : Nat) : wrapWord n ≤ n := Nat.mod_le n _

theorem wrapWord_of_lt {n : Nat} (h : n < UInt64.size) : wrapWord n = n := Nat.mod_eq_of_lt h

theorem wrapWord_add_congr {m n : Nat} (k : Nat) (h : wrapWord m = wrapWord n) :
    wrapWord (m + k) = wrapWord (n + k) :=
  Nat.add_mod_eq_add_mod_right k h

/-- The greatest number of sixty-four bits. -/
def maxWord : Nat := UInt64.size - 1

structure Metrics where
  logged : Nat := 0
  dropped : Nat := 0
  filtered : Nat := 0
  errors : Nat := 0
  latencyTotal : Nat := 0
  latencyMax : Nat := 0
  latencySamples : Nat := 0
  queueDepth : Nat := 0
  maxQueueDepth : Nat := 0
  /-- The room of the queue in front, 0 where there is none. -/
  queueCapacity : Nat := 0
  deriving DecidableEq, Repr

namespace Metrics

def recordLogged (m : Metrics) : Metrics := { m with logged := wrapWord (m.logged + 1) }
def recordDropped (m : Metrics) : Metrics := { m with dropped := wrapWord (m.dropped + 1) }
def recordFiltered (m : Metrics) : Metrics := { m with filtered := wrapWord (m.filtered + 1) }
def recordError (m : Metrics) : Metrics := { m with errors := wrapWord (m.errors + 1) }

/-- The latency of one delivery: whole microseconds, at most the greatest number. -/
def recordLatency (m : Metrics) (elapsed : Span) : Metrics :=
  let micros := min elapsed.micros maxWord
  { m with
    latencyTotal := wrapWord (m.latencyTotal + micros)
    latencySamples := wrapWord (m.latencySamples + 1)
    latencyMax := max m.latencyMax micros }

/-- The depth of the queue as it is now; the greatest one is kept. -/
def recordQueueDepth (m : Metrics) (depth : Nat) : Metrics :=
  { m with queueDepth := depth, maxQueueDepth := max m.maxQueueDepth depth }

def setQueueCapacity (m : Metrics) (capacity : Nat) : Metrics :=
  { m with queueCapacity := capacity }

/-- All counts start again; the room of the queue is no count. -/
def reset (m : Metrics) : Metrics := { queueCapacity := m.queueCapacity }

/-- One event of the metrics. -/
inductive Step where
  | logged | dropped | filtered | error
  | latency (elapsed : Span)
  | depth (n : Nat)
  | capacity (n : Nat)
  | reset
  deriving DecidableEq, Repr

/-- The metrics after an event, and the count of such events before it, where they are counted. -/
def step (m : Metrics) : Step → Option Nat × Metrics
  | .logged => (some m.logged, m.recordLogged)
  | .dropped => (some m.dropped, m.recordDropped)
  | .filtered => (some m.filtered, m.recordFiltered)
  | .error => (some m.errors, m.recordError)
  | .latency elapsed => (none, m.recordLatency elapsed)
  | .depth n => (none, m.recordQueueDepth n)
  | .capacity n => (none, m.setQueueCapacity n)
  | .reset => (none, m.reset)

/-- `part / whole`, each first brought to double precision; 0 of 0 is 0. -/
def dropRate (m : Metrics) : Binary64 :=
  let dropped := Binary64.ofNat m.dropped
  let total := (Binary64.ofNat m.logged).add dropped
  if total.isZero then .zero false else dropped.div total

/-- Metrics at one moment. -/
structure Snapshot where
  logged : Nat := 0
  dropped : Nat := 0
  filtered : Nat := 0
  errors : Nat := 0
  perSecond : Binary64 := .zero false
  avgLatency : Binary64 := .zero false
  maxLatency : Nat := 0
  queueDepth : Nat := 0
  maxQueueDepth : Nat := 0
  deriving DecidableEq, Repr

/-- The average latency: the total over the samples. -/
def avgLatency (m : Metrics) : Binary64 :=
  if m.latencySamples = 0 then .zero false
  else (Binary64.ofNat m.latencyTotal).div (.ofNat m.latencySamples)

/-- The metrics after a time of running. -/
def snapshot (m : Metrics) (elapsed : Binary64) : Snapshot where
  logged := m.logged
  dropped := m.dropped
  filtered := m.filtered
  errors := m.errors
  perSecond := if Binary64.lt (.zero false) elapsed then (Binary64.ofNat m.logged).div elapsed
    else .zero false
  avgLatency := m.avgLatency
  maxLatency := m.latencyMax
  queueDepth := m.queueDepth
  maxQueueDepth := m.maxQueueDepth

namespace Snapshot

def toValue (s : Snapshot) : Value :=
  .object [("messages_logged", .whole s.logged), ("messages_dropped", .whole s.dropped),
    ("messages_filtered", .whole s.filtered), ("errors", .whole s.errors),
    ("messages_per_second", .double s.perSecond), ("avg_latency_us", .double s.avgLatency),
    ("max_latency_us", .whole s.maxLatency), ("queue_depth", .whole s.queueDepth),
    ("max_queue_depth", .whole s.maxQueueDepth)]

/-- A field as read from a document. -/
inductive Entry where
  | count (n : Nat)
  | rate (x : Binary64)

def Entry.nat : Entry → Nat
  | count n => n
  | rate _ => 0

def Entry.double : Entry → Binary64
  | count _ => .zero false
  | rate x => x

def reader : Reader Snapshot :=
  let count (name wanted : String) : Reader.Field Entry :=
    ⟨name, (Reader.word64 wanted).map .count⟩
  let rate (name : String) : Reader.Field Entry := ⟨name, Reader.double.map .rate⟩
  (Reader.record "MetricsSnapshot" ⟨false, true⟩
    [count "messages_logged" "u64", count "messages_dropped" "u64",
     count "messages_filtered" "u64", count "errors" "u64", rate "messages_per_second",
     rate "avg_latency_us", count "max_latency_us" "u64", count "queue_depth" "usize",
     count "max_queue_depth" "usize"]).map fun entries =>
    let nat (name : String) : Nat := ((entries.lookup name).map Entry.nat).getD 0
    let double (name : String) : Binary64 :=
      ((entries.lookup name).map Entry.double).getD (.zero false)
    { logged := nat "messages_logged", dropped := nat "messages_dropped",
      filtered := nat "messages_filtered", errors := nat "errors",
      perSecond := double "messages_per_second", avgLatency := double "avg_latency_us",
      maxLatency := nat "max_latency_us", queueDepth := nat "queue_depth",
      maxQueueDepth := nat "max_queue_depth" }

end Snapshot

end Metrics

end Logworks
