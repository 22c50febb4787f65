import Logworks.Proofs.Json.Decoding
import Logworks.Proofs.Line.OneLine
import Logworks.Proofs.Sink.Requests

/-!
# A log of documents, read back

Whoever reads a log of documents takes it apart at the line feeds and reads each line on its own.
Nothing that is escaped leaves a line feed behind, so that the lines are the documents, and each
document is read as what it was written for. This file fixes

* `Json.unbroken_textObject` -- **a document of texts is one line**, whatever the texts are;
* `DocumentLog.readLine_line` -- the line of a record, read on its own;
* `DocumentLog.perform_keeps` -- what a file gets of one request;
* `DocumentLog.reads_back` -- **the lines behind a flush are the records that passed, in order**,
  with the names, levels and messages they were given.
-/

namespace Logworks

open Disk Line Sink Text

/-! ## 1. A document is one line -/

namespace Json

theorem isBreak_digitChar : ∀ d < 16, isBreak (Nat.digitChar d) = false := by decide

/-- Nothing escaped breaks a line. -/
theorem unbroken_escapeChar (c : Char) : Unbroken (escapeChar c) := by
  unfold escapeChar
  split
  · decide
  · decide
  · decide
  · decide
  · decide
  · decide
  · decide
  · rename_i feed ret _ _ _
    split
    · rename_i control
      have mark : Unbroken ['\\', 'u', '0', '0'] := by decide
      have high : isBreak (Nat.digitChar (c.toNat / 16)) = false :=
        isBreak_digitChar _ (by omega)
      have low : isBreak (Nat.digitChar (c.toNat % 16)) = false :=
        isBreak_digitChar _ (Nat.mod_lt _ (by decide))
      exact Unbroken.append_iff.mpr
        ⟨mark, Unbroken.cons_iff.mpr ⟨high, Unbroken.cons_iff.mpr ⟨low, .nil⟩⟩⟩
    · rw [Unbroken.cons_iff, isBreak, Bool.or_eq_false_iff, beq_eq_false_iff_ne,
        beq_eq_false_iff_ne]
      exact ⟨⟨feed, ret⟩, .nil⟩

theorem unbroken_textLiteral (s : String) : Unbroken (textLiteral s) := by
  have quote : Unbroken ['"'] := by decide
  have escaped : Unbroken (s.toList.flatMap escapeChar) := .flatMap fun c _ => unbroken_escapeChar c
  rw [textLiteral, List.cons_append]
  exact Unbroken.cons_iff.mpr ⟨rfl, Unbroken.append_iff.mpr ⟨escaped, quote⟩⟩

theorem unbroken_compactMembers (ms : List (String × String)) :
    Unbroken (Value.compactMembers (ms.map fun m => (m.1, .text m.2))) := by
  have member (m : String × String) : Unbroken (textLiteral m.1 ++ ':' :: textLiteral m.2) :=
    Unbroken.append_iff.mpr
      ⟨unbroken_textLiteral m.1, Unbroken.cons_iff.mpr ⟨rfl, unbroken_textLiteral m.2⟩⟩
  induction ms with
  | nil => exact .nil
  | cons m ms ih =>
    cases ms with
    | nil => exact member m
    | cons n ms =>
      rw [List.map_cons, List.map_cons, Value.compactMembers]
      · exact Unbroken.append_iff.mpr ⟨member m, Unbroken.cons_iff.mpr ⟨rfl, ih⟩⟩
      · nofun

/-- **A document of texts is one line.** -/
theorem unbroken_textObject (ms : List (String × String)) : Unbroken (textObject ms).compact := by
  rw [textObject, Value.compact, List.cons_append]
  exact Unbroken.cons_iff.mpr
    ⟨rfl, Unbroken.append_iff.mpr ⟨unbroken_compactMembers ms, by decide⟩⟩

theorem readable_textMembers (ms : List (String × String)) :
    Value.ReadableMembers (ms.map fun m => (m.1, .text m.2)) := by
  induction ms with
  | nil => trivial
  | cons m ms ih => exact ⟨trivial, ih⟩

/-- A document of texts is read as it was written. -/
theorem readable_textObject (ms : List (String × String)) : (textObject ms).Readable :=
  readable_textMembers ms

end Json

namespace File.DocumentLog

open Json

/-! ## 2. The line of a record -/

/-- The document of a record. -/
def document (p : Parts) : Value := textObject (members p.time p.logger p.level p.message)

theorem unbroken_document (p : Parts) : Unbroken (document p).compact := unbroken_textObject _

theorem readable_document (p : Parts) : (document p).Readable := readable_textObject _

/-- What a file gets of a record. -/
def line (p : Parts) : Octets := octets (document p).compact ++ [lineFeed]

/-- One line of a log: the document in front of the line feed, if there is one. -/
def readLine (bytes : Octets) : Option Value :=
  if bytes.getLast? = some lineFeed then
    (textOf? bytes.dropLast).bind fun text => (Value.ofDocument text).toOption
  else none

/-- **A line is read as the document of its record.** -/
theorem readLine_line (p : Parts) : readLine (line p) = some (document p) := by
  rw [readLine, line, if_pos List.getLast?_concat, List.dropLast_concat, textOf?_octets,
    Option.bind_some]
  show (Value.ofDocument (document p).render).toOption = _
  rw [Value.ofDocument_render (readable_document p)]
  rfl

/-- Lines one behind the other are read as the documents of their records. -/
theorem readLines (ps : List Parts) :
    (splitLines (ps.flatMap line)).map readLine = ps.map fun p => some (document p) := by
  have apart : splitLines (ps.flatMap line) = ps.map line := by
    rw [show line = fun p => octets (document p).compact ++ [lineFeed] from rfl]
    refine splitLines_flatMap fun p _ => ?_
    rw [← List.count_eq_zero, count_lineFeed_octets]
    exact (unbroken_document p).count_eq_zero rfl
  rw [apart, List.map_map]
  refine List.map_congr_left fun p _ => ?_
  rw [Function.comp_apply, readLine_line]

/-! ## 3. What a file gets -/

section

variable {w : Writer} {n : Nat} {text : Octets} {d : Disk}

/-- The pieces of a document and the line feed come behind what is there. -/
theorem append_ok (holds : w.Holds n text d) (writable : d.mishaps.Writable) (p : Parts) :
    ∃ w' d', append w ((objectPieces (members p.time p.logger p.level p.message)).map octets) d =
        (.ok (), w', d') ∧ w'.Holds n (text ++ line p) d' ∧ Touches n d d' := by
  obtain ⟨w₁, d₁, pieces, holds₁, touched₁⟩ := holds.writePieces writable
    ((objectPieces (members p.time p.logger p.level p.message)).map octets)
  obtain ⟨w₂, d₂, feed, holds₂, touched₂⟩ :=
    holds₁.write (touched₁.writable writable) [lineFeed]
  have whole : ((objectPieces (members p.time p.logger p.level p.message)).map octets).flatten =
      octets (document p).compact := by
    rw [document, ← flatten_objectPieces, octets_flatten]
  rw [whole, List.append_assoc] at holds₂
  refine ⟨w₂, d₂, ?_, holds₂, touched₁.trans touched₂⟩
  simp only [append, pieces, feed]

theorem write_ok (holds : w.Holds n text d) (writable : d.mishaps.Writable) (path : Path)
    (p : Parts) :
    ∃ w' d', write ⟨path, w⟩ p.time p.logger p.level p.message d = (.ok (), ⟨path, w'⟩, d') ∧
      w'.Holds n (text ++ line p) d' ∧ Touches n d d' := by
  obtain ⟨w', d', appended, holds', touched⟩ := append_ok holds writable p
  refine ⟨w', d', ?_, holds', touched⟩
  simp only [write, appended]

theorem flush_ok (holds : w.Holds n text d) (writable : d.mishaps.Writable) (path : Path) :
    ∃ w' d', flush ⟨path, w⟩ d = (.ok (), ⟨path, w'⟩, d') ∧
      w'.Holds n text d' ∧ w'.pending = [] ∧ Touches n d d' := by
  obtain ⟨w', d', flushed, holds', none_left, touched⟩ := holds.flush writable
  refine ⟨w', d', ?_, holds', none_left, touched⟩
  rw [flush, flushed]

end

/-- The log writes to a file which holds, with what is pending, this text and these lines. -/
def Keeps (path : Path) (n : Nat) (text : Octets) (as : List (Parts × Outcome)) (k : Kind)
    (site : Site) : Prop :=
  ∃ w, k = .documents ⟨path, w⟩ ∧ w.Holds n (text ++ (as.map Prod.fst).flatMap line) site.disk ∧
    site.disk.mishaps.Writable

/-- **One request at a log of documents**: the file gets the record that passes, if there is one. -/
theorem perform_keeps {path : Path} {n : Nat} {text : Octets} (as : List (Parts × Outcome))
    (k : Kind) (site : Site) (threshold : Level) (q : Request) (h : Keeps path n text as k site) :
    ∃ o k' site', q.perform ⟨threshold, k⟩ site = (o, ⟨q.next threshold, k'⟩, site') ∧ o = .ok ∧
      Keeps path n text (as ++ (q.records threshold).map (·, o)) k' site' := by
  obtain ⟨w, rfl, holds, writable⟩ := h
  have unchanged (holds : w.Holds n (text ++ (as.map Prod.fst).flatMap line) site.disk) :
      Keeps path n text (as ++ [].map (·, Outcome.ok)) (.documents ⟨path, w⟩) site := by
    rw [List.map_nil, List.append_nil]
    exact ⟨w, rfl, holds, writable⟩
  cases q with
  | threshold level => exact ⟨.ok, _, site, rfl, rfl, unchanged holds⟩
  | flush =>
    obtain ⟨w', d', flushed, holds', -, touched⟩ := flush_ok holds writable path
    refine ⟨.ok, .documents ⟨path, w'⟩, { site with disk := d' }, ?_, rfl, ?_⟩
    · simp only [Request.perform, Request.call, Sink.perform, Kind.flush, flushed,
        Outcome.ofExcept, Request.next]
    · rw [Request.records, List.map_nil, List.append_nil]
      exact ⟨w', rfl, holds', touched.writable writable⟩
  | log p =>
    cases passes : threshold.admits p.level with
    | false =>
      refine ⟨.ok, _, _, Request.perform_below rfl passes site, rfl, ?_⟩
      rw [Request.records, passes, if_neg Bool.false_ne_true]
      exact unchanged holds
    | true =>
      obtain ⟨w', d', written, holds', touched⟩ := write_ok holds writable path p
      refine ⟨.ok, .documents ⟨path, w'⟩, { site with time := p.time, disk := d' }, ?_, rfl, w',
        rfl, ?_, touched.writable writable⟩
      · rw [Request.perform_passing rfl passes]
        simp only [Kind.take, written, Outcome.ofExcept, Request.next]
      · rw [Request.records, passes, if_pos rfl, List.map_append, List.flatMap_append,
          ← List.append_assoc]
        simpa using holds'

/-! ## 4. From the start -/

theorem holds_create {path : Path} {d d₀ : Disk} {l : DocumentLog} {n : Nat}
    (made : create path d = (.ok l, d₀)) (file : l.writer.handle.target = .file n)
    (filed : n < d₀.contents.length) : l.writer.Holds n (d₀.octetsOf n) d₀ := by
  unfold create at made
  rcases opened : (openAppend path).run d with ⟨c | h, d'⟩
  · rw [opened] at made
    cases made
  · rw [opened] at made
    cases made
    exact ⟨⟨file, filed, .inl (position_of_openAppend opened)⟩, List.append_nil _⟩

/-- **The records of a log of documents are read back as they were given.** Whatever is asked of
it, in any number of requests up to a flush: what the file got comes apart into one line for each
record that passed, in order, and each line is read as an object with exactly these four members,
whatever the name and the message are made of. -/
theorem reads_back {path : Path} {d d₀ : Disk} {l : DocumentLog} {n : Nat}
    (made : create path d = (.ok l, d₀)) (file : l.writer.handle.target = .file n)
    (filed : n < d₀.contents.length) (writable : d₀.mishaps.Writable) (threshold : Level)
    (site : Site) (requests : List Request) :
    ∃ w site' written,
      serve ⟨threshold, .documents l⟩ { site with disk := d₀ } (requests ++ [.flush]) =
        (List.replicate (requests.length + 1) .ok,
          ⟨requests.foldl Request.next threshold, .documents { l with writer := w }⟩, site') ∧
      site'.disk.octetsOf n = d₀.octetsOf n ++ written ∧
      (splitLines written).map readLine = (recordsOf threshold requests).map fun p =>
        some (.object [("timestamp", .text (String.ofList p.time.millisecondText)),
          ("logger", .text p.logger), ("level", .text p.level.name),
          ("message", .text p.message)]) := by
  have start : Keeps l.path n (d₀.octetsOf n) [] (.documents l)
      { site with disk := d₀ : Site } := by
    refine ⟨l.writer, rfl, ?_, writable⟩
    rw [List.map_nil, List.flatMap_nil, List.append_nil]
    exact holds_create made file filed
  obtain ⟨os, k, site', served, length, good, w, rfl, holds, writable'⟩ :=
    serve_keeps perform_keeps start threshold requests
  rw [List.nil_append, map_fst_answered threshold length] at holds
  obtain ⟨w', d', flushed, holds', none_left, -⟩ := flush_ok holds writable' l.path
  refine ⟨w', { site' with disk := d' }, (recordsOf threshold requests).flatMap line, ?_, ?_,
    readLines _⟩
  · have all : os = List.replicate requests.length .ok := List.eq_replicate_iff.mpr ⟨length, good⟩
    rw [serve_concat, served, all, List.replicate_succ']
    simp only [Request.perform, Request.call, Sink.perform, Kind.flush, flushed, Outcome.ofExcept]
  · rw [← holds'.whole, none_left, List.append_nil]

/-- A disk with a log that is there, where writing takes several attempts. -/
def hesitant : Disk where
  entries := [(["logs".toList], .directory), (["logs".toList, "app.log".toList], .file 0)]
  contents := [octetsOf "before\n"]
  mishaps := { writes := [.takes 1, .interrupted, .takes 7] }

/-- That log, opened. -/
def reopened : DocumentLog := ⟨.ofString "/logs/app.log", ⟨⟨.file 0, none⟩, []⟩⟩

/-- A name that breaks the line, a message with all that is escaped, a record below the threshold,
and one without a name. -/
def mixed : List Request :=
  [.log ⟨⟨0, 0⟩, "a\nb", .info, "\"\\\r\t\x01\x7f 😀"⟩, .threshold .error, .flush,
    .log ⟨⟨1, 0⟩, "a", .warn, "below"⟩, .log ⟨⟨86400, 1500000⟩, "", .critical, ""⟩]

theorem reads_back_mixed :
    create (.ofString "/logs/app.log") hesitant = (.ok reopened, hesitant) ∧
      hesitant.mishaps.Writable ∧
      ∃ w site' written,
        serve ⟨.trace, .documents reopened⟩ { disk := hesitant } (mixed ++ [.flush]) =
          ([.ok, .ok, .ok, .ok, .ok, .ok], ⟨.error, .documents { reopened with writer := w }⟩,
            site') ∧
        site'.disk.octetsOf 0 = octetsOf "before\n" ++ written ∧
        (splitLines written).map readLine =
          [some (.object [("timestamp", .text "1970-01-01T00:00:00.000Z"),
            ("logger", .text "a\nb"), ("level", .text "INFO"),
            ("message", .text "\"\\\r\t\x01\x7f 😀")]),
          some (.object [("timestamp", .text "1970-01-02T00:00:00.001Z"),
            ("logger", .text ""), ("level", .text "CRITICAL"), ("message", .text "")])] := by
  have made : create (.ofString "/logs/app.log") hesitant = (.ok reopened, hesitant) := rfl
  have writable : hesitant.mishaps.Writable := by
    intro a ha
    revert a
    decide
  obtain ⟨w, site', written, served, file, read⟩ :=
    reads_back made rfl (by decide) writable .trace { disk := hesitant } mixed
  refine ⟨made, writable, w, site', written, served, file, read.trans ?_⟩
  rfl

end File.DocumentLog

end Logworks
