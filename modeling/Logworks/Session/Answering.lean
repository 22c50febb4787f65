import Logworks.Session.Making

/-!
# Answering requests

`Session.answer` takes one request. What it gives up on the way is gone before the next one is
taken (`Session.perform`). `Session.run` takes one request after the other and then ends the
session: the gates are opened, and names are given up in ascending order, first those of sinks,
then those of loggers, then those of pipes.
-/

namespace Logworks.Session

open Fanout Rotation

def ofOutcome : Outcome → Reply
  | .ok => .done
  | .failed f => .fault f
  | .crashed p => .crash p

def ofResult : Except Fault Unit → Reply
  | .ok () => .done
  | .error f => .fault f

/-! ## Names -/

def withSink (s : Session) (name : String) (f : Nat → Sink → Reply × Session) :
    Reply × Session :=
  match s.sinkNames.lookup name with
  | none => (.missing name, s)
  | some n =>
    match s.sinks.get? n with
    | some k => f n k
    | none => (.missing name, s)

def withLogger (s : Session) (name : String)
    (f : Nat → Logger Predicate Nat → Reply × Session) : Reply × Session :=
  match s.loggerNames.lookup name with
  | none => (.missing name, s)
  | some n =>
    match s.loggers.get? n with
    | some l => f n l
    | none => (.missing name, s)

def withPipe (s : Session) (name : String) (f : Nat → Pipe → Reply × Session) :
    Reply × Session :=
  match s.pipeNames.lookup name with
  | none => (.missing name, s)
  | some n =>
    match s.pipes.get? n with
    | some p => f n p
    | none => (.missing name, s)

/-- A change of a logger. -/
def alterLogger (s : Session) (name : String) (c : Logger.Change Predicate Nat) : Reply × Session :=
  s.withLogger name fun n _ => (.done, s.changeLogger n fun l => l.changed c)

/-! ## Fields -/

/-- An act on fields that belong to nobody, or to a logger. -/
def actOn (f : Fields) : FieldAct → Told × Fields
  | .set k v => (.nothing, f.insert k v)
  | .get k => (.text (f.get? k), f)
  | .remove k => (.nothing, f.erase k)
  | .clear => (.nothing, {})
  | .merge top => (.fields (top.above f), f)
  | .push .. | .pop _ | .elsewhere .. => (.nothing, f)

/-- Drops a guard if it lives. -/
def dropGuard (a : Ambient) : Option Nat → Told × Ambient
  | some n => (.truth (a.lives n), a.drop n)
  | none => (.truth false, a)

/-- An act on the fields in force. -/
def actOnAmbient (a : Ambient) : FieldAct → Told × Ambient
  | .set k v => (.nothing, a.set k v)
  | .get k => (.text (a.fields.get? k), a)
  | .remove k => (.text (a.fields.get? k), a.remove k)
  | .clear => (.nothing, a.clear)
  | .push k v => (.number a.guards.length, a.push k v)
  | .pop (some n) => dropGuard a (some n)
  | .pop none => dropGuard a a.lastMade?
  | .elsewhere k v =>
    let there : Ambient := {}
    (.texts [there.fields.get? k, (there.set k v).fields.get? k], a)
  | .merge _ => (.nothing, a)

/-! ## Sinks -/

/-- Gives a sink a record several times; a crash ends it. -/
def logTimes (n : Nat) (g : Sink.Given) : Nat → Outcome → Session → Outcome × Session
  | 0, o, s => (o, s)
  | _ + 1, .crashed p, s => (.crashed p, s)
  | k + 1, _, s =>
    let (o, s) := s.callSink n (.log g.logger g.level g.message)
    logTimes n g k o s

/-- The answer to a call on a sink. -/
def calledReply (s : Session) (n : Nat) (k : Sink) : Outcome → Reply
  | .crashed p => .crash p
  | .ok => .called (.ok ()) ((s.sinks.get? n).getD k)
  | .failed f => .called (.error f) ((s.sinks.get? n).getD k)

def addChild (s : Session) (sink child : String) : Reply × Session :=
  s.withSink sink fun n k =>
    s.withSink child fun c _ =>
      match k with
      | ⟨threshold, .branch children⟩ =>
        (.done, s.setSink n ⟨threshold, .branch (children ++ [c])⟩)
      | _ => (.missing sink, s)

def rotate (s : Session) (sink : String) : Reply × Session :=
  s.withSink sink fun n k =>
    match k with
    | ⟨threshold, .rotating f l⟩ =>
      let (r, l, d) := l.rotate s.site.disk
      (ofResult r, (s.setDisk d).setSink n ⟨threshold, .rotating f l⟩)
    | _ => (.missing sink, s)

def changeRing (s : Session) (sink : String)
    (f : Ring 64 → Disk → (Ring 64 → Reply) × Ring 64 × Disk) : Reply × Session :=
  s.withSink sink fun n k =>
    match k with
    | ⟨threshold, .ring r⟩ =>
      let (reply, r, d) := f r s.site.disk
      (reply r, (s.setDisk d).setSink n ⟨threshold, .ring r⟩)
    | _ => (.missing sink, s)

def changeCapture (s : Session) (sink : String) (f : Sink.Capture → Reply × Sink.Capture) :
    Reply × Session :=
  s.withSink sink fun n k =>
    match k with
    | ⟨threshold, .capture c⟩ =>
      let (r, c) := f c
      (r, s.setSink n ⟨threshold, .capture c⟩)
    | _ => (.missing sink, s)

def stopFromSinkLater (s : Session) (sink pipe : String) : Reply × Session :=
  s.withPipe pipe fun p _ =>
    s.changeCapture sink fun c => (.done, { c with stops := some p })

/-! ## Loggers -/

/-- The counts of a logger, or the value that was thrown. -/
def countsReply (s : Session) (n : Nat) : Option Payload → Reply
  | some p => .crash p
  | none => .counts ((s.metricsOf n).getD {})

def logReply (s : Session) (n : Nat) (d : Draft) : Reply × Session :=
  let (thrown, s) := s.log n d
  (s.countsReply n thrown, s)

def logIf (s : Session) (n : Nat) (condition : Bool) (level : Level) (message : String) :
    Reply × Session :=
  if condition then
    let (thrown, s) := s.log n ⟨level, "<" ++ message ++ ">", {}⟩
    match thrown with
    | some p => (.crash p, s)
    | none => (.formatted 1 ((s.metricsOf n).getD {}), s)
  else (.formatted 0 ((s.metricsOf n).getD {}), s)

/-- Threads of their own log one after the other: none of them has a name or fields in force. -/
def logFromThreads (s : Session) (n threads each : Nat) : Session :=
  (List.range threads).foldl (fun s t =>
    (List.range each).foldl (fun s i =>
      (s.logAt ⟨{}, none, s.site.time⟩ n
        ⟨.info, toString t ++ ":" ++ toString i, {}⟩).2) s) s

/-- The same event several times, and what the last one answered. -/
def stepTimes (step : Metrics.Step) : Nat → Reply → Metrics → Reply × Metrics
  | 0, r, m => (r, m)
  | k + 1, _, m =>
    let (count, m) := m.step step
    stepTimes step k (match count with
      | some n => .number n
      | none => .done) m

def metric (s : Session) (n times : Nat) (step : Metrics.Step) : Reply × Session :=
  let (r, m) := stepTimes step times .done ((s.metricsOf n).getD {})
  (r, s.changeMetrics n fun _ => m)

def makeLogger (s : Session) (name title : String) (level : Level) (sinks : List String)
    (admission : Admission Predicate) (context : Fields) : Reply × Session :=
  match s.sinkNumbers sinks with
  | .error r => (r, s)
  | .ok sinks => (.done, s.putLogger name { name := title, level, sinks, admission, context })

def makeConfiguredLogger (s : Session) (name title document : String) : Reply × Session :=
  match s.makeConfigured title document with
  | (.error f, s) => (.fault f, s)
  | (.ok (n, _), s) =>
    (.done, { s with loggerNames := Names.assign s.loggerNames name n })

def addSink (s : Session) (logger sink : String) : Reply × Session :=
  s.withLogger logger fun n _ =>
    s.withSink sink fun k _ =>
      (.done, s.changeLogger n fun l => l.changed (.addSink k))

/-- Gives up the holds of a logger on its sinks. -/
def clearSinks (s : Session) (logger : String) : Reply × Session :=
  s.withLogger logger fun n l =>
    (.done, (s.changeLogger n fun l => l.changed .clearSinks).release l.sinks)

def actOnContext (s : Session) (logger : String) (a : FieldAct) : Reply × Session :=
  s.withLogger logger fun n l =>
    let (t, f) := actOn l.context a
    (.told t f, s.changeLogger n fun l => l.changed (.context f))

/-! ## Files -/

/-- Work on the disk that answers nothing. -/
def onDisk {α : Type} (s : Session) (w : Disk.Work α) : Reply × Session :=
  match w.run s.site.disk with
  | (.ok _, d) => (.done, s.setDisk d)
  | (.error c, d) => (.fault (.io c), s.setDisk d)

/-- How an entry is shown. -/
def listed (d : Disk) : Disk.Entry → Listed
  | .directory => .directory
  | .link _ => .link
  | .file n => .file (.ofOctets (d.octetsOf n))
  | .device _ => .file (.plain [])

/-- Entries by ascending names. -/
def inOrder (es : List (Disk.Name × Disk.Entry)) : List (Disk.Name × Disk.Entry) :=
  es.mergeSort fun a b => !decide (b.1 < a.1)

/-- The entries below a place, those of a directory right behind it, down to a depth. -/
def listBelow (d : Disk) : Nat → Disk.Place → List Char → List (String × Listed)
  | 0, _, _ => []
  | depth + 1, place, path =>
    (inOrder (d.children place)).flatMap fun e =>
      (String.ofList (path ++ e.1), listed d e.2) ::
        match e.2 with
        | .directory => listBelow d depth (place ++ [e.1]) (path ++ e.1 ++ ['/'])
        | _ => []

/-- Everything below the directory of the session. -/
def listing (s : Session) : List (String × Listed) :=
  let d := s.site.disk
  match d.look? s.home with
  | .ok (place, .directory) => listBelow d (d.entries.length + 1) place []
  | _ => []

def fileLines (s : Session) (path : String) : Reply :=
  match s.site.disk.read? (s.place path) with
  | .ok bytes => .fileLines (Text.splitLines bytes)
  | .error c => .fault (.io c)

def compress (s : Session) (codec : Codec) (source target : String) : Reply × Session :=
  match codec.compress (s.place source) (s.place target) s.site.disk with
  | (.ok n, d) => (.compressed (0 < n) (n == d.fileSize (s.place target)), s.setDisk d)
  | (.error f, d) => (.fault f, s.setDisk d)

/-! ## The registry -/

/-- The crash of counters that cannot be added. -/
def overflowReply : Reply := .crash (.text "attempt to add with overflow")

def orOverflow {α : Type} (f : α → Reply) : Option α → Reply
  | some a => f a
  | none => overflowReply

def askRegistry (s : Session) : RegistryAct → Reply × Session
  | .new t => (.done, { s with registry := { thresholds := t } })
  | .register name logger =>
    s.withLogger logger fun n _ =>
      let r := s.registry.register name n
      (.number r.size, { s with registry := r })
  | .unregister name =>
    let r := s.registry.unregister name
    (.number r.size, { s with registry := r })
  | .setThresholds t => (.done, { s with registry := s.registry.setThresholds t })
  | .size => (.size s.registry.size, s)
  | .prune =>
    let (n, r) := s.registry.prune s.metricsOf
    (.pruned n r.size, { s with registry := r })
  | .check name => (orOverflow .report (s.registry.check s.metricsOf s.site.time name), s)
  | .checkAll => (orOverflow .reports (s.registry.checkAll s.metricsOf s.site.time), s)
  | .overall =>
    (orOverflow (fun g => .text g.name) (s.registry.overall s.metricsOf s.site.time), s)
  | .document => (orOverflow .document (s.registry.document s.metricsOf s.site.time), s)
  | .answer name => (orOverflow .document (s.registry.answer s.metricsOf s.site.time name), s)

/-! ## Pipes -/

/-- Puts a pipe before a logger; one of the same name is shut down behind it. -/
def makePipe (s : Session) (name : String) (logger capacity : Nat) (policy : Delivery.Policy)
    (isHeard : Bool) : Reply × Session :=
  let before := s.pipeNames.lookup name
  match s.addPipe name logger capacity policy isHeard with
  | (.error f, s) => (.fault f, s)
  | (.ok (), s) =>
    match before with
    | some n => (.done, (s.shutDown n standardLimit).2)
    | none => (.done, s)

def makeConfiguredPipe (s : Session) (name title document : String) : Reply × Session :=
  match s.makeConfigured title document with
  | (.error f, s) => (.fault f, s)
  | (.ok (n, c), s) => s.makePipe name n c.queueCapacity c.policy false

def postAll (s : Session) (n : Nat) (level : Level) (messages : List String) : Session :=
  messages.foldl (fun s m => s.post n level m) s

def ofBool (r : Bool × Session) : Reply × Session := (.truth r.1, r.2)

def metricsOfPipe (s : Session) (p : Pipe) : Metrics := (s.metricsOf p.logger).getD {}

/-! ## Requests -/

def answer (s : Session) : Request → Reply × Session
  | .ambient a =>
    let (t, ambient) := actOnAmbient s.ambient a
    (.told t ambient.fields, { s with ambient := ambient })
  | .store a =>
    let (t, f) := actOn s.store a
    (.told t f, { s with store := f })
  | .context logger a => s.actOnContext logger a
  | .marks => (.texts s.marks, { s with marks := [] })
  | .sink name plan pattern threshold => s.makeSink name plan pattern threshold
  | .addChild sink child => s.addChild sink child
  | .sinkLog sink given times =>
    s.withSink sink fun n k =>
      let (o, s) := logTimes n given times .ok s
      (s.calledReply n k o, s)
  | .sinkFlush sink =>
    s.withSink sink fun n _ =>
      let (o, s) := s.callSink n .flush
      (ofOutcome o, s)
  | .sinkState sink => s.withSink sink fun _ k => (.sinkAccess k, s)
  | .setThreshold sink level =>
    s.withSink sink fun n k => (.done, s.setSink n (k.setThreshold level))
  | .dropSink sink => (.truth (s.sinkNames.lookup sink).isSome, s.dropSinkName sink)
  | .rotate sink => s.rotate sink
  | .ringWrite sink bytes =>
    s.changeRing sink fun r d =>
      let (isTaken, r, d) := r.produce bytes d
      (.ringWritten isTaken, r, d)
  | .ringFlush sink =>
    s.changeRing sink fun r d =>
      let (isWhole, r, d) := r.flushBuffer d
      (.ringFlushed isWhole, r, d)
  | .holdGate sink => s.changeCapture sink fun c => (.done, { c with isClosed := true })
  | .openGate sink => s.changeCapture sink fun c => (.done, { c with isClosed := false })
  | .awaitArrivals sink count =>
    s.changeCapture sink fun c => (.truth (count ≤ c.arrivals), c)
  | .stopFromSink sink pipe => s.stopFromSinkLater sink pipe
  | .logger name title level sinks admission context =>
    s.makeLogger name title level sinks admission context
  | .configuredLogger name title document => s.makeConfiguredLogger name title document
  | .loggerState logger => s.withLogger logger fun _ l => (.logger l, s)
  | .dropLogger logger =>
    (.truth (s.loggerNames.lookup logger).isSome,
      { s with loggerNames := s.loggerNames.drop logger })
  | .addSink logger sink => s.addSink logger sink
  | .clearSinks logger => s.clearSinks logger
  | .addFilter logger f => s.alterLogger logger (.addFilter f)
  | .setPredicate logger p => s.alterLogger logger (.predicate p)
  | .clearFilters logger => s.alterLogger logger .clearFilters
  | .setLevel logger level => s.alterLogger logger (.level level)
  | .log logger d => s.withLogger logger fun n _ => s.logReply n d
  | .logIf logger condition level message =>
    s.withLogger logger fun n _ => s.logIf n condition level message
  | .logFromThreads logger threads each =>
    s.withLogger logger fun n _ =>
      let s := s.logFromThreads n threads each
      (s.countsReply n none, s)
  | .flush logger =>
    s.withLogger logger fun n _ =>
      let (o, s) := s.flush n
      (ofOutcome o, s)
  | .metric logger times step => s.withLogger logger fun n _ => s.metric n times step
  | .metrics logger => s.withLogger logger fun _ l => (.metrics l.metrics, s)
  | .awaitLogged logger count =>
    s.withLogger logger fun _ l => (.truth (count ≤ l.metrics.logged), s)
  | .writeFile path bytes => s.onDisk (Codec.Simple.writeWhole (s.place path) bytes)
  | .makeDirectories path => s.onDisk (Disk.makeDirectories (s.place path))
  | .removeTree path =>
    let (b, d) := Disk.removeTree (s.place path) s.site.disk
    (.truth b, s.setDisk d)
  | .makeLink path target => s.onDisk (Disk.makeLink (s.place path) (.ofString target))
  | .fileSize path => (.number (s.site.disk.fileSize (s.place path)), s)
  | .listing => (.listing s.listing, s)
  | .fileLines path => (s.fileLines path, s)
  | .compress codec source target => s.compress codec source target
  | .registry a => s.askRegistry a
  | .pipe name logger capacity policy isHeard =>
    s.withLogger logger fun n _ => s.makePipe name n capacity policy isHeard
  | .configuredPipe name title document => s.makeConfiguredPipe name title document
  | .post pipe level messages =>
    s.withPipe pipe fun n p =>
      let s := s.postAll n level messages
      (.losses (s.metricsOfPipe p).dropped, s)
  | .flushPipe pipe limit =>
    s.withPipe pipe fun n _ =>
      let (o, s) := s.flushPipe n limit
      (ofOutcome o, s)
  | .beginFlush pipe => s.withPipe pipe fun n _ => (.truth true, s.beginFlush n)
  | .joinFlush =>
    let (o, s) := s.joinFlush
    (ofOutcome o, s)
  | .shutDown pipe limit => s.withPipe pipe fun n _ => ofBool (s.shutDown n limit)
  | .dropPipe pipe => ofBool (s.dropPipe pipe)
  | .queueState pipe => s.withPipe pipe fun _ p => (.queue p (s.metricsOfPipe p), s)
  | .pipeState pipe =>
    s.withPipe pipe fun _ p =>
      match s.loggers.get? p.logger with
      | some l => (.pipe p l, s)
      | none => (.missing pipe, s)
  | .pipeText pipe => s.withPipe pipe fun _ p => (.text (s.pipeSummary p), s)

/-- Answers a request, lets the workers go on, and gives up what nothing holds. -/
def perform (s : Session) (r : Request) : Reply × Session :=
  let (reply, s) := s.answer r
  (reply, s.settle.sweep)

/-! ## A whole session -/

/-- Opens all gates. -/
def openGates (s : Session) : Session :=
  s.sinks.numbers.foldl (fun s n => s.alterCapture n fun c => { c with isClosed := false }) s

/-- Gives up the name of a logger. -/
def dropLoggerName (s : Session) (name : String) : Session :=
  { s with loggerNames := s.loggerNames.drop name }.sweep

/-- Gives everything up. -/
def finish (s : Session) : Session :=
  let s := s.openGates.settle
  let s := s.sinkNames.inOrder.foldl dropSinkName s
  let s := s.loggerNames.inOrder.foldl dropLoggerName s
  s.pipeNames.inOrder.foldl (fun s name => (s.dropPipe name).2.settle.sweep) s

/-- What a session leaves: its replies, and the lines on the screen and on the error stream. -/
structure Transcript where
  replies : List Reply
  screen : List String
  notices : List String

/-- Answers requests one after the other. -/
def performAll : List Request → Session → List Reply × Session
  | [], s => ([], s)
  | r :: rs, s =>
    let (reply, s) := s.perform r
    let (replies, s) := performAll rs s
    (reply :: replies, s)

def run (home : String) (rs : List Request) : Transcript :=
  let (replies, s) := performAll rs (start home)
  let s := s.finish
  { replies
    screen := Screen.linesOfAll s.site.screen
    notices := Screen.linesOfAll (s.site.notices.map fun n => n.line ++ "\n") }

end Logworks.Session
