import Logworks.Session.Request

/-!
# Making sinks and loggers

A sink is made first with the formatter of the default pattern, and gets the formatter of its own
pattern afterwards: a file may be there although the pattern was refused. A sink that could not be
finished is given up.
-/

namespace Logworks.Session

open Rotation File Network

/-- Puts a disk in place of the one before. -/
def setDisk (s : Session) (d : Disk) : Session := { s with site := { s.site with disk := d } }

/-- Something made on the disk, or the fault that kept it from being made. -/
def ofDisk {α : Type} (s : Session) (make : α → Sink.Kind) :
    Except Fault α × Disk → Except Reply Sink.Kind × Session
  | (.ok a, d) => (.ok (make a), s.setDisk d)
  | (.error f, d) => (.error (.fault f), s.setDisk d)

/-- The numbers of sinks, or the first name that stands for none. -/
def sinkNumbers (s : Session) (names : List String) : Except Reply (List Nat) :=
  names.mapM fun name =>
    match s.sinkNames.lookup name with
    | some n => .ok n
    | none => .error (.missing name)

/-- A log in one file. -/
def makePlain (s : Session) (path : String) (isStrict : Bool) :
    Except Reply Sink.Kind × Session :=
  match PlainLog.create (s.place path) s.site.disk with
  | (.ok (), l, d) => (.ok (.plain .standard l), s.setDisk d)
  | (.error c, l, d) =>
    let s := s.setDisk d
    if isStrict then (.error (.fault (PlainLog.openingFault (s.place path) c)), s)
    else (.ok (.plain .standard l), s.tell [.error (PlainLog.openingWords (s.place path) c)])

def makeRing (s : Session) (path : String) (size : Nat) : Except Reply Sink.Kind × Session :=
  match Ring.create (s.place path) size s.site.disk with
  | (.ok (), r, d) => (.ok (.ring r), s.setDisk d)
  | (.error c, r, d) =>
    (.ok (.ring r), (s.setDisk d).tell [.error (Ring.openingWords (s.place path) c)])

/-- A codec of the caller's own goes with the standard options. -/
def makeCompressed (s : Session) (path : String) (maxSize maxFiles : Nat) (o : Options)
    (codec : Option Codec) : Except Reply Sink.Kind × Session :=
  let create (o : Options) (codec : Option Codec) :=
    s.ofDisk (.compressed .standard)
      (CompressedLog.create (s.place path) maxSize maxFiles o codec s.site.disk)
  match codec with
  | some c => create {} (some c)
  | none => create o o.codec?

/-- A sink before it has its own pattern. -/
def makeKind (s : Session) : SinkPlan → Except Reply Sink.Kind × Session
  | .nothing => (.ok .nothing, s)
  | .capture => (.ok (.capture {}), s)
  | .faulty f => (.ok (.faulty f), s)
  | .screen isColoured => (.ok (.screen .standard isColoured), s)
  | .branch children => ((s.sinkNumbers children).map .branch, s)
  | .plain path isStrict => s.makePlain path isStrict
  | .rotating path maxSize maxFiles =>
    s.ofDisk (.rotating .standard)
      (RotatingLog.create (s.place path) maxSize maxFiles [] s.site.disk)
  | .compressed path maxSize maxFiles o codec => s.makeCompressed path maxSize maxFiles o codec
  | .documents path => s.ofDisk .documents (DocumentLog.create (s.place path) s.site.disk)
  | .ring path size => s.makeRing path size
  | .batch url labels room refuses =>
    let b : Batch := match room with
      | some n => Batch.create url labels n
      | none => { url, labels }
    (.ok (.batch .standard b { refuses }), s)
  | .link address =>
    match Link.create address s.site.wire with
    | (.ok l, w) => (.ok (.link l), { s with site := { s.site with wire := w } })
    | (.error f, w) => (.error (.fault f), { s with site := { s.site with wire := w } })

/-- Whether a kind of sink writes lines after a pattern. -/
def hasPattern : Sink.Kind → Bool
  | .screen .. | .plain .. | .rotating .. | .compressed .. | .batch .. => true
  | _ => false

/-- The sink with another formatter. -/
def withFormatter (f : Line.Formatter) : Sink.Kind → Sink.Kind
  | .screen _ c => .screen f c
  | .plain _ l => .plain f l
  | .rotating _ l => .rotating f l
  | .compressed _ l => .compressed f l
  | .batch _ b r => .batch f b r
  | k => k

/-- The sink with the formatter of its pattern. -/
def finishKind (pattern : Option String) (k : Sink.Kind) : Except Fault Sink.Kind :=
  match pattern with
  | none => .ok k
  | some p => if hasPattern k then (Line.Formatter.ofPattern p).map fun f => withFormatter f k
    else .ok k

/-- Puts a sink under a name; one that had the name before loses it. -/
def putSink (s : Session) (name : String) (k : Sink) : Session :=
  let before := s.sinkNames.lookup name
  { s with sinks := s.sinks.add k,
           sinkNames := Names.assign s.sinkNames name s.sinks.next }.release before.toList

def makeSink (s : Session) (name : String) (plan : SinkPlan) (pattern : Option String)
    (threshold : Option Level) : Reply × Session :=
  match s.makeKind plan with
  | (.error r, s) => (r, s)
  | (.ok k, s) =>
    match finishKind pattern k with
    | .error f => (.fault f, { s with site := Sink.close ⟨.trace, k⟩ s.site })
    | .ok k =>
      let sink := Sink.setThreshold ⟨.trace, k⟩ (threshold.getD .trace)
      (.sink sink, s.putSink name sink)

/-! ## Loggers -/

def putLogger (s : Session) (name : String) (l : Logger Predicate Nat) : Session :=
  { s with loggers := s.loggers.add l,
           loggerNames := Names.assign s.loggerNames name s.loggers.next }

/-- A logger on the screen, as a configuration has it, without a name yet. -/
def addConfigured (s : Session) (title : String) (c : Config) : Except Fault Nat × Session :=
  match c.validate with
  | .error f => (.error f, s)
  | .ok f =>
    let l : Logger Predicate Nat :=
      { name := title, level := c.level, sinks := [s.sinks.next] }
    (.ok s.loggers.next,
      { s with sinks := s.sinks.add ⟨.trace, .screen f false⟩, loggers := s.loggers.add l })

/-- A logger as a document has it. The document is read without being checked first. -/
def makeConfigured (s : Session) (title document : String) :
    Except Fault (Nat × Config) × Session :=
  match Config.ofDocumentUnchecked document with
  | .error f => (.error f, s)
  | .ok c =>
    match s.addConfigured title c with
    | (.ok n, s) => (.ok (n, c), s)
    | (.error f, s) => (.error f, s)

end Logworks.Session
