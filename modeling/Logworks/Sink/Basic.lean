import Logworks.Batch.Shipment
import Logworks.Fanout.Round
import Logworks.File.Documents
import Logworks.File.Plain
import Logworks.Line.Formatter
import Logworks.Network.Link
import Logworks.Ring.Basic
import Logworks.Rotation.Compressed
import Logworks.Screen
import Logworks.Sink.Double

/-!
# Sinks

A sink is something records go to, with a threshold of its own. This file fixes

* `Site` -- what sinks share: a disk, a screen, a wire, the notices, the time;
* `Sink.perform` -- what a sink does when it is called. A sink that stands for several is not
  called itself, and a gate is looked at before the call;
* `Sink.close` -- a sink that is given up writes what it still has.
-/

namespace Logworks

open Disk Rotation File Network Fanout Sink

/-- What sinks share. -/
structure Site where
  disk : Disk
  /-- The texts written to the screen. -/
  screen : List String := []
  notices : List Notice := []
  wire : Wire := {}
  time : Time.Instant := ⟨0, 0⟩

namespace Site

def write (s : Site) (text : String) : Site := { s with screen := s.screen ++ [text] }

def tell (s : Site) (ns : List Notice) : Site := { s with notices := s.notices ++ ns }

end Site

/-- What kind of sink it is, with what it holds. -/
inductive Sink.Kind where
  | nothing
  | screen (formatter : Line.Formatter) (isColoured : Bool)
  | capture (c : Capture)
  | faulty (f : Faulty)
  /-- Stands for other sinks, named by their numbers. -/
  | branch (children : List Nat)
  | plain (formatter : Line.Formatter) (log : PlainLog)
  | rotating (formatter : Line.Formatter) (log : RotatingLog)
  | compressed (formatter : Line.Formatter) (log : CompressedLog)
  | documents (log : DocumentLog)
  | ring (r : Ring 64)
  | batch (formatter : Line.Formatter) (b : Batch) (recorder : Batch.Recorder)
  | link (l : Link)

structure Sink where
  threshold : Level := .trace
  kind : Sink.Kind

namespace Sink

def Kind.name : Kind → String
  | nothing => "null"
  | screen .. => "stdout"
  | capture _ => "capture"
  | faulty _ => "broken"
  | branch _ => "multi"
  | plain .. => "file"
  | rotating .. => "rotating_file"
  | compressed .. => "compressed_file"
  | documents _ => "json"
  | ring _ => "signal_safe"
  | batch .. => "loki"
  | link _ => "network"

def name (s : Sink) : String := s.kind.name

/-- A sink that never does what it is asked has no threshold that could be set. -/
def setThreshold (s : Sink) (level : Level) : Sink :=
  match s.kind with
  | .faulty _ => s
  | _ => { s with threshold := level }

/-- What a call came to. -/
structure Performed where
  outcome : Outcome
  kind : Kind
  site : Site

/-- The line of a record. -/
def lineOf (f : Line.Formatter) (time : Time.Instant) (g : Given) : String :=
  f.render ⟨time, g.logger, g.level, g.message⟩

/-- Takes a record that passed the threshold. -/
def Kind.take (k : Kind) (g : Given) (site : Site) : Performed :=
  match k with
  | nothing | branch _ | capture _ => ⟨.ok, k, site⟩
  | faulty f => ⟨f.log, k, site⟩
  | screen f isColoured =>
    let line := lineOf f site.time g
    let shown := if isColoured then
        String.ofList (Screen.coloured g.level.colour line.toList) else line
    ⟨.ok, k, site.write (shown ++ "\n")⟩
  | plain f l =>
    let (r, l, d) := l.writeLine (lineOf f site.time g) site.disk
    ⟨.ofExcept r, plain f l, { site with disk := d }⟩
  | rotating f l =>
    let e := l.writeLine (lineOf f site.time g) site.disk
    ⟨.ofExcept e.result, rotating f e.log, { site with disk := e.disk }.tell e.notices⟩
  | compressed f l =>
    let e := l.writeLine (lineOf f site.time g) site.disk
    ⟨.ofExcept e.result, compressed f e.log, { site with disk := e.disk }.tell e.notices⟩
  | documents l =>
    let (r, l, d) := l.write site.time g.logger g.level g.message site.disk
    ⟨.ofExcept r, documents l, { site with disk := d }⟩
  | ring r =>
    let (_, r, d) := r.produce (Ring.recordOctets g.level g.message) site.disk
    ⟨.ok, ring r, { site with disk := d }⟩
  | batch f b recorder =>
    let (r, b, recorder) :=
      b.add Batch.Recorder.transport ⟨site.time, lineOf f site.time g⟩ recorder
    ⟨.ofExcept r, batch f b recorder, site⟩
  | link l =>
    let (r, l, w) := l.send (Text.octets (encodeLine g.logger g.level g.message)) site.wire
    ⟨.ofExcept r, link l, { site with wire := w }⟩

/-- Writes or ships what is still held. -/
def Kind.flush (k : Kind) (site : Site) : Performed :=
  match k with
  | nothing | branch _ | capture _ | screen .. | link _ => ⟨.ok, k, site⟩
  | faulty f => ⟨f.flush, k, site⟩
  | plain f l =>
    let (r, l, d) := l.flush site.disk
    ⟨.ofExcept r, plain f l, { site with disk := d }⟩
  | rotating f l =>
    let (r, l, d) := l.flush site.disk
    ⟨.ofExcept r, rotating f l, { site with disk := d }⟩
  | compressed f l =>
    let (r, log, d) := l.log.flush site.disk
    ⟨.ofExcept r, compressed f { l with log := log }, { site with disk := d }⟩
  | documents l =>
    let (r, l, d) := l.flush site.disk
    ⟨.ofExcept r, documents l, { site with disk := d }⟩
  | ring r =>
    let (e, r, d) := r.flush site.disk
    ⟨.ofExcept e, ring r, { site with disk := d }⟩
  | batch f b recorder =>
    let (r, b, recorder) := b.flush Batch.Recorder.transport recorder
    ⟨.ofExcept r, batch f b recorder, site⟩

/-- What a sink does when it is called. A record below the threshold is passed over. -/
def perform (s : Sink) (c : Call) (site : Site) : Performed :=
  match c, s.kind with
  | .flush, k => k.flush site
  | .log logger level message, .capture c =>
    ⟨.ok, .capture (c.keep s.threshold ⟨logger, level, message⟩), site⟩
  | .log logger level message, .faulty f => Kind.take (.faulty f) ⟨logger, level, message⟩ site
  | .log logger level message, k =>
    if s.threshold.admits level then k.take ⟨logger, level, message⟩ site
    else ⟨.ok, k, site⟩

/-- The writer a sink holds, which is closed after the sink. -/
def Kind.writer? : Kind → Option Writer
  | plain _ l => l.writer
  | rotating _ l => l.writer
  | compressed _ l => l.log.writer
  | documents l => some l.writer
  | _ => none

/-- What a sink does last: it writes or ships what it still holds. One that may throw is not asked
to. -/
def Kind.giveUp (k : Kind) (site : Site) : Performed :=
  match k with
  | faulty _ => ⟨.ok, k, site⟩
  | k => k.flush site

/-- Gives up a sink. Nobody hears of a failure, and none can throw. -/
def close (s : Sink) (site : Site) : Site :=
  let p := s.kind.giveUp site
  { p.site with disk := closeWriter p.kind.writer? p.site.disk }

end Sink

end Logworks
