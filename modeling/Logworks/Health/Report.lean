import Logworks.Health.Thresholds
import Logworks.Metrics
import Logworks.Time.Instant

/-!
# Health reports

A report judges the metrics of a logger: the four quantities, the grade, a message that names the
quantities at fault, and two warnings. This file fixes

* `Rates.ofSnapshot?` -- the quantities; the records lost and delivered are first added in
  sixty-four bits, and a sum that does not fit gives nothing;
* `Thresholds.grade` -- the worst of the four tiers;
* `issues` -- which quantities the message names for a grade;
* `Report` with its document and its text.
-/

namespace Logworks.Health

open Logworks.Number Logworks.Json Logworks.Time Logworks.Text

/-- The four quantities a logger is judged by. -/
structure Rates where
  drop : Binary64
  error : Binary64
  latency : Nat
  usage : Binary64
  deriving DecidableEq, Repr

/-- A part of a whole; of nothing, 0. -/
def ratio (part whole : Nat) : Binary64 :=
  if whole = 0 then .zero false else (Binary64.ofNat part).div (.ofNat whole)

/-- The quantities of a snapshot before a queue of some room; 0 stands for no queue. -/
def Rates.ofSnapshot? (s : Metrics.Snapshot) (capacity : Nat) : Option Rates :=
  let attempts := s.logged + s.dropped
  if maxWord < attempts then none
  else some ⟨ratio s.dropped attempts, ratio s.errors s.logged, s.maxLatency,
    ratio s.queueDepth capacity⟩

namespace Thresholds

/-- The grades of the four quantities. -/
def tiers (t : Thresholds) (r : Rates) : List Grade :=
  [tier r.drop t.dropHealthy t.dropDegraded,
   tier r.error t.errorHealthy t.errorDegraded,
   tier (.ofNat r.latency) (.ofNat t.latencyHealthy) (.ofNat t.latencyDegraded),
   tier r.usage t.usageHealthy t.usageDegraded]

def grade (t : Thresholds) (r : Rates) : Grade := Grade.worst (t.tiers r)

end Thresholds

/-! ## The message -/

/-- A quantity that is named in a message. -/
inductive Issue where
  | drop | error | latency | usage
  deriving DecidableEq, Repr

/-- The quantities at fault for a grade. -/
def issues (t : Thresholds) (r : Rates) : Grade → List Issue
  | .healthy => []
  | .degraded =>
    (if t.dropHealthy.lt r.drop then [.drop] else []) ++
    (if t.errorHealthy.lt r.error then [.error] else []) ++
    (if t.latencyHealthy < r.latency then [.latency] else []) ++
    (if t.usageHealthy.lt r.usage then [.usage] else [])
  | .unhealthy =>
    (if t.dropDegraded.le r.drop then [.drop] else []) ++
    (if t.errorDegraded.le r.error then [.error] else []) ++
    (if t.latencyDegraded ≤ r.latency then [.latency] else []) ++
    (if t.usageDegraded.le r.usage then [.usage] else [])

/-- A share in percent. -/
def percent (x : Binary64) : Binary64 := x.mul (.ofNat 100)

/-- A share in percent, in two places. -/
def percentText (x : Binary64) : String :=
  String.ofList ((percent x).fixed 2) ++ "%"

def Issue.text (r : Rates) : Issue → String
  | drop => "drop rate " ++ percentText r.drop
  | error => "error rate " ++ percentText r.error
  | latency => "latency " ++ toString r.latency ++ "us"
  | usage => "queue usage " ++ percentText r.usage

def message (t : Thresholds) (r : Rates) (g : Grade) : String :=
  let named := ", ".intercalate ((issues t r g).map (Issue.text r))
  match g with
  | .healthy => "All systems operational"
  | .degraded => "Performance degraded: " ++ named
  | .unhealthy => "Critical issues detected: " ++ named

/-! ## Reports -/

structure Report where
  grade : Grade
  message : String
  time : Instant
  metrics : Metrics.Snapshot
  dropRate : Binary64
  errorRate : Binary64
  queueUsage : Binary64
  queueFullWarning : Bool
  highLatencyWarning : Bool
  deriving DecidableEq, Repr

namespace Report

/-- The report on quantities that were read off a snapshot. -/
def ofRates (t : Thresholds) (s : Metrics.Snapshot) (r : Rates) (time : Instant) : Report where
  grade := t.grade r
  message := Health.message t r (t.grade r)
  time := time
  metrics := s
  dropRate := r.drop
  errorRate := r.error
  queueUsage := r.usage
  queueFullWarning := t.usageDegraded.le r.usage
  highLatencyWarning := t.latencyDegraded ≤ r.latency

/-- The report on a snapshot; there is none where its counters cannot be added. -/
def check? (t : Thresholds) (s : Metrics.Snapshot) (capacity : Nat) (time : Instant) :
    Option Report :=
  (Rates.ofSnapshot? s capacity).map fun r => ofRates t s r time

/-- The report on a logger that is not there. -/
def unavailable (message : String) (time : Instant) : Report where
  grade := .unhealthy
  message := message
  time := time
  metrics := {}
  dropRate := .zero false
  errorRate := .zero false
  queueUsage := .zero false
  queueFullWarning := false
  highLatencyWarning := false

/-- The members of the document, by ascending names. -/
def members (r : Report) : List (String × Value) :=
  let m := r.metrics
  [("indicators", .object
      [("drop_rate", .double (percent r.dropRate)), ("error_rate", .double (percent r.errorRate)),
       ("high_latency_warning", .bool r.highLatencyWarning),
       ("queue_full_warning", .bool r.queueFullWarning)]),
   ("message", .text r.message),
   ("metrics", .object
      [("avg_latency_us", .double m.avgLatency), ("errors", .whole m.errors),
       ("max_latency_us", .whole m.maxLatency), ("max_queue_depth", .whole m.maxQueueDepth),
       ("messages_dropped", .whole m.dropped), ("messages_filtered", .whole m.filtered),
       ("messages_logged", .whole m.logged), ("messages_per_second", .double m.perSecond),
       ("queue_depth", .whole m.queueDepth)]),
   ("status", .text r.grade.name),
   ("timestamp", .text (String.ofList r.time.secondText))]

def toValue (r : Report) : Value := .object r.members

/-- The lines of the text, each ended by a line feed. -/
def lines (r : Report) : List String :=
  let m := r.metrics
  let two (x : Binary64) : String := String.ofList (x.fixed 2)
  ["Health Status: " ++ r.grade.capitalName,
   "Message: " ++ r.message,
   "Messages Logged: " ++ toString m.logged,
   "Messages Dropped: " ++ toString m.dropped ++ " (" ++ percentText r.dropRate ++ ")",
   "Messages Filtered: " ++ toString m.filtered,
   "Errors: " ++ toString m.errors ++ " (" ++ percentText r.errorRate ++ ")",
   "Throughput: " ++ two m.perSecond ++ " msg/sec",
   "Avg Latency: " ++ two m.avgLatency ++ " us",
   "Max Latency: " ++ toString m.maxLatency ++ " us",
   "Queue Depth: " ++ toString m.queueDepth ++ "/" ++ toString m.maxQueueDepth] ++
  (if r.queueFullWarning then ["Warning: Queue near capacity"] else []) ++
  (if r.highLatencyWarning then ["Warning: High latency detected"] else [])

def text (r : Report) : String :=
  String.join (r.lines.map (· ++ "\n"))

end Report

end Logworks.Health
