import Logworks.Session.Pipes

/-!
# Requests and replies

What can be asked of a session, one request after the other, and what it answers.
-/

namespace Logworks.Session

open Fanout

/-! ## Requests -/

/-- A sink as it is asked for. -/
inductive SinkPlan where
  | nothing
  | capture
  | faulty (f : Sink.Faulty)
  | screen (isColoured : Bool)
  | branch (children : List String)
  /-- A file that must be there at once if it is strict. -/
  | plain (path : String) (isStrict : Bool)
  | rotating (path : String) (maxSize maxFiles : Nat)
  | compressed (path : String) (maxSize maxFiles : Nat) (options : Rotation.Options)
      (codec : Option Codec)
  | documents (path : String)
  | ring (path : String) (size : Nat)
  | batch (url labels : String) (room : Option Nat) (refuses : Bool)
  /-- A link to an address. -/
  | link (address : String)

/-- A change of fields, or a look at them. -/
inductive FieldAct where
  | set (key value : String)
  | get (key : String)
  | remove (key : String)
  | clear
  /-- Makes a guard. -/
  | push (key value : String)
  /-- Drops a guard, the last one made if none is named. -/
  | pop (guard : Option Nat)
  /-- Looks and sets on another thread, which has fields of its own. -/
  | elsewhere (key value : String)
  /-- Fields with those that are kept below them. -/
  | merge (fields : Fields)

inductive RegistryAct where
  | new (t : Health.Thresholds)
  | register (name logger : String)
  | unregister (name : String)
  | setThresholds (t : Health.Thresholds)
  | size
  | prune
  | check (name : String)
  | checkAll
  | overall
  | document
  | answer (name : Option String)

inductive Request where
  | ambient (a : FieldAct)
  | store (a : FieldAct)
  | context (logger : String) (a : FieldAct)
  | marks
  -- sinks
  | sink (name : String) (plan : SinkPlan) (pattern : Option String) (threshold : Option Level)
  | addChild (sink child : String)
  | sinkLog (sink : String) (given : Sink.Given) (times : Nat)
  | sinkFlush (sink : String)
  | sinkState (sink : String)
  | setThreshold (sink : String) (level : Level)
  | dropSink (sink : String)
  | rotate (sink : String)
  | ringWrite (sink : String) (bytes : Text.Octets)
  | ringFlush (sink : String)
  | holdGate (sink : String)
  | openGate (sink : String)
  | awaitArrivals (sink : String) (count : Nat)
  | stopFromSink (sink pipe : String)
  -- loggers
  | logger (name title : String) (level : Level) (sinks : List String)
      (admission : Admission Predicate) (context : Fields)
  | configuredLogger (name title document : String)
  | loggerState (logger : String)
  | dropLogger (logger : String)
  | addSink (logger sink : String)
  | clearSinks (logger : String)
  | addFilter (logger : String) (f : Filter Predicate)
  | setPredicate (logger : String) (p : Predicate)
  | clearFilters (logger : String)
  | setLevel (logger : String) (level : Level)
  | log (logger : String) (d : Draft)
  | logIf (logger : String) (condition : Bool) (level : Level) (message : String)
  | logFromThreads (logger : String) (threads each : Nat)
  | flush (logger : String)
  | metric (logger : String) (times : Nat) (step : Metrics.Step)
  | metrics (logger : String)
  | awaitLogged (logger : String) (count : Nat)
  -- files
  | writeFile (path : String) (bytes : Text.Octets)
  | makeDirectories (path : String)
  | removeTree (path : String)
  | makeLink (path target : String)
  | fileSize (path : String)
  | listing
  | fileLines (path : String)
  | compress (codec : Codec) (source target : String)
  -- the registry
  | registry (a : RegistryAct)
  -- pipes
  | pipe (name logger : String) (capacity : Nat) (policy : Delivery.Policy) (isHeard : Bool)
  | configuredPipe (name title document : String)
  | post (pipe : String) (level : Level) (messages : List String)
  | flushPipe (pipe limit : String)
  | beginFlush (pipe : String)
  | joinFlush
  | shutDown (pipe limit : String)
  | dropPipe (pipe : String)
  | queueState (pipe : String)
  | pipeState (pipe : String)
  | pipeText (pipe : String)

/-! ## Replies -/

/-- What an act on fields came to. -/
inductive Told where
  | nothing
  | text (t : Option String)
  | number (n : Nat)
  | truth (b : Bool)
  | texts (ts : List (Option String))
  | fields (f : Fields)

/-- An entry of a directory as it is shown. -/
inductive Listed where
  | directory
  | link
  | file (contents : Codec.Contents)

inductive Reply where
  | done
  /-- A name that stands for nothing. -/
  | missing (name : String)
  | fault (f : Fault)
  | crash (p : Payload)
  | truth (b : Bool)
  | number (n : Nat)
  | text (t : String)
  | texts (ts : List String)
  | told (t : Told) (all : Fields)
  | sink (k : Sink)
  /-- A sink with its name and what it lets through. -/
  | sinkAccess (k : Sink)
  | called (r : Except Fault Unit) (k : Sink)
  | ringWritten (isTaken : Bool) (r : Ring 64)
  | ringFlushed (isWhole : Bool) (r : Ring 64)
  | counts (m : Metrics)
  /-- How often a message was made, and the counts. -/
  | formatted (n : Nat) (m : Metrics)
  | metrics (m : Metrics)
  | logger (l : Logger Predicate Nat)
  | listing (entries : List (String × Listed))
  | fileLines (lines : List Text.Octets)
  /-- Whether the size told is positive, and that of the target. -/
  | compressed (isPositive isTrue : Bool)
  | size (n : Nat)
  | pruned (n size : Nat)
  | report (r : Health.Report)
  | reports (rs : List (String × Health.Report))
  | document (v : Json.Value)
  | losses (n : Nat)
  | queue (p : Pipe) (m : Metrics)
  | pipe (p : Pipe) (l : Logger Predicate Nat)

end Logworks.Session
