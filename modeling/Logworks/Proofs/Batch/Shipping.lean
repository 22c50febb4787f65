import Logworks.Proofs.Json.Decoding
import Logworks.Proofs.Sink.Requests

/-!
# What is shipped of a run

Lines are gathered and shipped in batches. Whatever is asked of the sink, and whatever the other
side answers: each record that passed the threshold is in one batch or still pending, in order. A
batch that was not taken is gone like any other, and counted. This file fixes

* `readPayload` -- what a payload says to whoever reads it, with `readPayload_payload`;
* `Stands` -- how a batch stands behind some records: which were shipped together, which are
  pending, how many shipments failed;
* `Ships` -- what one request ships: nothing, a full batch, or the rest;
* `Stands.perform` -- **one request keeps the stand**, and answers what the other side answered;
* `ships_each_once` -- **no record is lost, doubled or moved**, in any run.
-/

namespace Logworks

/-! ## 1. Payloads -/

namespace Json.Value

def member? (name : String) : Value → Option Value
  | object members => members.lookup name
  | _ => none

def text? : Value → Option String
  | text s => some s
  | _ => none

def items? : Value → Option (List Value)
  | array items => some items
  | _ => none

end Json.Value

namespace Batch

open Json Line Sink

/-- When a line was made and the line, of an entry. -/
def readEntry (entry : Value) : Option (String × String) := do
  let time ← (← entry.member? "ts").text?
  let line ← (← entry.member? "line").text?
  return (time, line)

/-- The labels of a payload and its entries, in order; it has one stream. -/
def readPayload (document : String) : Option (String × List (String × String)) := do
  let value ← (Value.ofDocument document).toOption
  let [stream] ← (← value.member? "streams").items? | none
  let labels ← (← stream.member? "labels").text?
  let entries ← (← (← stream.member? "entries").items?).mapM readEntry
  return (labels, entries)

theorem readable_payloadValue (labels : String) (items : List Item) :
    (payloadValue labels items).Readable := by
  have entries : Value.ReadableItems (items.map itemValue) := by
    induction items with
    | nil => trivial
    | cons i items ih => exact ⟨⟨trivial, trivial, trivial⟩, ih⟩
  exact ⟨⟨⟨entries, trivial, trivial⟩, trivial⟩, trivial⟩

/-- **A payload says the labels and the lines it was made of.** -/
theorem readPayload_payload (labels : String) (items : List Item) :
    readPayload (payload labels items) =
      some (labels, items.map fun i => (timestampText i.time, i.line)) := by
  have entries : (items.map itemValue).mapM readEntry =
      some (items.map fun i => (timestampText i.time, i.line)) := by
    induction items with
    | nil => rfl
    | cons i items ih =>
      rw [List.map_cons, List.mapM_cons, ih]
      rfl
  have read : Value.ofDocument (payload labels items) = .ok (payloadValue labels items) :=
    Value.ofDocument_render (readable_payloadValue labels items)
  rw [readPayload, read]
  show ((items.map itemValue).mapM readEntry >>= fun entries => some (labels, entries)) = _
  rw [entries]
  rfl

/-! ## 2. Stands -/

/-- What is gathered of a record. -/
def itemOf (f : Formatter) (p : Parts) : Item := ⟨p.time, f.render p⟩

/-- How many of the batches handed over were not taken. -/
def Recorder.refused (planned : Recorder) (url : String) (handed : Nat) : Nat :=
  (List.range handed).countP fun k => !(planned.answerTo url k).isOk

/-- How a sink of batches is set up, and what the other side is going to answer. -/
structure Setting where
  formatter : Formatter
  url : String
  labels : String
  room : Nat
  planned : Recorder

variable {e : Setting}

namespace Setting

/-- The sink at the start. -/
def start (e : Setting) : Batch := create e.url e.labels e.room

/-- The recorder once it has been handed some shipments. -/
def recorder (e : Setting) (shipments : List (List Parts)) : Recorder :=
  { e.planned with
    sent := shipments.map fun ps => (e.url, payload e.labels (ps.map (itemOf e.formatter))) }

/-- How many lines fill a batch. -/
def fullSize (e : Setting) : Nat := max e.room 1

/-- What the other side answers behind some shipments. -/
def answer (e : Setting) (shipments : List (List Parts)) : Except Fault Unit :=
  e.planned.answerTo e.url shipments.length

end Setting

/-- **How a batch stands behind some records**: some were shipped together, the rest is pending,
and there is room for it or a shipment due. -/
structure Holds (e : Setting) (records : List Parts) (shipments : List (List Parts))
    (pending : List Parts) (b : Batch) : Prop where
  url : b.url = e.url
  labels : b.labels = e.labels
  room : b.room = e.fullSize
  whole : shipments.flatten ++ pending = records
  gathered : b.pending = pending.map (itemOf e.formatter)
  sizes : ∀ ps ∈ shipments, 0 < ps.length ∧ ps.length ≤ e.fullSize
  failed : b.failed = e.planned.refused e.url shipments.length

/-- No shipment is due. -/
structure Stands (e : Setting) (records : List Parts) (shipments : List (List Parts))
    (pending : List Parts) (b : Batch) : Prop extends Holds e records shipments pending b where
  below : pending.length < e.fullSize

/-- **What one request ships, and what it answers.** -/
inductive Ships (e : Setting) (shipments : List (List Parts)) :
    Request → Outcome → List (List Parts) → Prop where
  /-- Nothing; and nothing fails. -/
  | nothing {q : Request} : Ships e shipments q .ok shipments
  /-- A record fills the batch. -/
  | full {p : Parts} {ps : List Parts} (full : ps.length = e.fullSize) :
    Ships e shipments (.log p) (.ofExcept (e.answer shipments)) (shipments ++ [ps])
  /-- A flush ships what there is, which is less. -/
  | rest {ps : List Parts} (some : 0 < ps.length) (less : ps.length < e.fullSize) :
    Ships e shipments .flush (.ofExcept (e.answer shipments)) (shipments ++ [ps])

theorem fullSize_pos : 0 < e.fullSize := Nat.lt_of_lt_of_le Nat.one_pos (Nat.le_max_right _ _)

/-- A batch as it is made. -/
theorem stands_start : Stands e [] [] [] e.start where
  url := rfl
  labels := rfl
  room := rfl
  whole := rfl
  gathered := rfl
  sizes := nofun
  failed := rfl
  below := fullSize_pos

variable {records : List Parts} {shipments : List (List Parts)} {pending : List Parts} {b : Batch}

theorem refused_succ (planned : Recorder) (url : String) (handed : Nat) :
    planned.refused url (handed + 1) =
      planned.refused url handed + if (planned.answerTo url handed).isOk then 0 else 1 := by
  rw [Recorder.refused, List.range_succ, List.countP_append, List.countP_singleton,
    Recorder.refused]
  cases (planned.answerTo url handed).isOk <;> rfl

/-- **What is pending is shipped whole**, and gone whatever the answer is. -/
theorem Holds.ship (h : Holds e records shipments pending b) (some : 0 < pending.length)
    (fits : pending.length ≤ e.fullSize) :
    ∃ b', b.flush Recorder.transport (e.recorder shipments) =
        (e.answer shipments, b', e.recorder (shipments ++ [pending])) ∧
      Stands e records (shipments ++ [pending]) [] b' := by
  have due : b.pending.isEmpty = false := by
    rw [h.gathered, List.isEmpty_eq_false_iff, Ne, List.map_eq_nil_iff]
    exact List.ne_nil_of_length_pos some
  have handed : Recorder.transport.send b.url (payload b.labels b.pending) (e.recorder shipments) =
      (e.answer shipments, e.recorder (shipments ++ [pending])) := by
    have number : (e.recorder shipments).sent.length = shipments.length := List.length_map _
    rw [h.url, h.labels, h.gathered, Recorder.transport]
    dsimp only
    rw [number, Setting.recorder, Setting.recorder, List.map_append]
    rfl
  have failed : e.planned.refused e.url (shipments ++ [pending]).length =
      b.failed + if (e.answer shipments).isOk then 0 else 1 := by
    rw [h.failed, List.length_append, List.length_singleton, refused_succ]
    rfl
  have whole : (shipments ++ [pending]).flatten ++ [] = records := by
    rw [← h.whole, List.append_nil, List.flatten_append, List.flatten_singleton]
  have sizes : ∀ ps ∈ shipments ++ [pending], 0 < ps.length ∧ ps.length ≤ e.fullSize := by
    intro ps hps
    rcases List.mem_append.mp hps with earlier | last
    · exact h.sizes ps earlier
    · rw [List.mem_singleton.mp last]
      exact ⟨some, fits⟩
  rw [Batch.flush, due, if_neg Bool.false_ne_true, handed]
  cases answer : e.answer shipments with
  | ok u =>
    rw [answer] at failed
    exact ⟨_, rfl, ⟨⟨h.url, h.labels, h.room, whole, rfl, sizes, failed.symm⟩, fullSize_pos⟩⟩
  | error c =>
    rw [answer] at failed
    exact ⟨_, rfl, ⟨⟨h.url, h.labels, h.room, whole, rfl, sizes, failed.symm⟩, fullSize_pos⟩⟩

theorem Holds.gather (h : Holds e records shipments pending b) (p : Parts) :
    Holds e (records ++ [p]) shipments (pending ++ [p])
      { b with pending := b.pending ++ [itemOf e.formatter p] } where
  url := h.url
  labels := h.labels
  room := h.room
  whole := by rw [← h.whole, List.append_assoc]
  gathered := by rw [List.map_append, ← h.gathered]; rfl
  sizes := h.sizes
  failed := h.failed

/-! ## 3. Requests -/

theorem Stands.flush (h : Stands e records shipments pending b) :
    ∃ r shipments' b', b.flush Recorder.transport (e.recorder shipments) =
        (r, b', e.recorder shipments') ∧
      Stands e records shipments' [] b' ∧ Ships e shipments .flush (.ofExcept r) shipments' := by
  cases pending with
  | nil =>
    refine ⟨.ok (), shipments, b, ?_, h, .nothing⟩
    rw [Batch.flush, h.gathered]
    rfl
  | cons p ps =>
    obtain ⟨b', flushed, h'⟩ := h.ship (Nat.succ_pos _) (Nat.le_of_lt h.below)
    exact ⟨e.answer shipments, _, b', flushed, h', .rest (Nat.succ_pos _) h.below⟩

theorem Stands.add (h : Stands e records shipments pending b) (p : Parts) :
    ∃ r shipments' pending' b',
      b.add Recorder.transport (itemOf e.formatter p) (e.recorder shipments) =
        (r, b', e.recorder shipments') ∧
      Stands e (records ++ [p]) shipments' pending' b' ∧
      Ships e shipments (.log p) (.ofExcept r) shipments' := by
  have gathered := h.toHolds.gather p
  have size : (pending ++ [p]).length = pending.length + 1 := List.length_append
  have count : (b.pending ++ [itemOf e.formatter p]).length = pending.length + 1 := by
    rw [List.length_append, h.gathered, List.length_map]
    rfl
  have room := h.room
  have below := h.below
  rw [Batch.add]
  dsimp only
  rw [count]
  split
  · rename_i due
    have full : (pending ++ [p]).length = e.fullSize := by omega
    obtain ⟨b', flushed, h'⟩ := gathered.ship (by omega) (by omega)
    exact ⟨e.answer shipments, _, [], b', flushed, h', .full full⟩
  · exact ⟨.ok (), shipments, pending ++ [p], _, rfl, ⟨gathered, by omega⟩, .nothing⟩

/-- **One request keeps the stand**, and answers what the other side answered, if it was asked. -/
theorem Stands.perform (h : Stands e records shipments pending b) (threshold : Level)
    (site : Site) (q : Request) :
    ∃ o shipments' pending' b' site',
      q.perform ⟨threshold, .batch e.formatter b (e.recorder shipments)⟩ site =
        (o, ⟨q.next threshold, .batch e.formatter b' (e.recorder shipments')⟩, site') ∧
      Stands e (records ++ q.records threshold) shipments' pending' b' ∧
      Ships e shipments q o shipments' ∧ (q = .flush → pending' = []) := by
  cases q with
  | threshold level =>
    refine ⟨.ok, shipments, pending, b, site, rfl, ?_, .nothing, nofun⟩
    rw [Request.records, List.append_nil]
    exact h
  | flush =>
    obtain ⟨r, shipments', b', flushed, h', ships⟩ := h.flush
    refine ⟨.ofExcept r, shipments', [], b', site, ?_, ?_, ships, fun _ => rfl⟩
    · simp only [Request.perform, Request.call, Sink.perform, Kind.flush, flushed, Request.next]
    · rw [Request.records, List.append_nil]
      exact h'
  | log p =>
    cases passes : threshold.admits p.level with
    | false =>
      refine ⟨.ok, shipments, pending, b, _, Request.perform_below rfl passes site, ?_, .nothing,
        nofun⟩
      rw [Request.records, passes, if_neg Bool.false_ne_true, List.append_nil]
      exact h
    | true =>
      obtain ⟨r, shipments', pending', b', added, h', ships⟩ := h.add p
      refine ⟨.ofExcept r, shipments', pending', b', { site with time := p.time }, ?_, ?_, ships,
        nofun⟩
      · have item : (⟨p.time, lineOf e.formatter p.time ⟨p.logger, p.level, p.message⟩⟩ : Item) =
            itemOf e.formatter p := rfl
        rw [Request.perform_passing rfl passes]
        simp only [Kind.take, item, added, Request.next]
      · rw [Request.records, passes, if_pos rfl]
        exact h'

/-- A sink of batches stands somehow behind the records that were put in. -/
def Keeps (e : Setting) (as : List (Parts × Outcome)) (k : Kind) (_ : Site) : Prop :=
  ∃ shipments pending b, k = .batch e.formatter b (e.recorder shipments) ∧
    Stands e (as.map Prod.fst) shipments pending b

theorem perform_keeps (as : List (Parts × Outcome)) (k : Kind) (site : Site) (threshold : Level)
    (q : Request) (h : Keeps e as k site) :
    ∃ o k' site', q.perform ⟨threshold, k⟩ site = (o, ⟨q.next threshold, k'⟩, site') ∧ True ∧
      Keeps e (as ++ (q.records threshold).map (·, o)) k' site' := by
  obtain ⟨shipments, pending, b, rfl, stands⟩ := h
  obtain ⟨o, shipments', pending', b', site', performed, stands', -, -⟩ :=
    stands.perform threshold site q
  refine ⟨o, _, site', performed, trivial, shipments', pending', b', rfl, ?_⟩
  rw [List.map_append, List.map_map]
  simpa [Function.comp_def] using stands'

/-! ## 4. From the start -/

/-- The payloads of some shipments, read. -/
theorem readPayloads (e : Setting) (shipments : List (List Parts)) :
    ((e.recorder shipments).sent.map fun s => (s.1, readPayload s.2)) = shipments.map fun ps =>
      (e.url, some (e.labels, ps.map fun p => (timestampText p.time, e.formatter.render p))) := by
  rw [Setting.recorder, List.map_map]
  refine List.map_congr_left fun ps _ => ?_
  rw [Function.comp_apply, readPayload_payload, List.map_map]
  rfl

/-- **No record is lost, doubled or moved.** Whatever is asked of a sink of batches, in any number
of requests, and whatever the other side answers: the records shipped, one shipment behind the
other, and those pending behind them are the records that passed, in order, and each payload says
the labels and the lines of its records. The next request ships nothing, a full batch if it is a
record, or the rest if it is a flush, and answers what the other side answered; a sink that is given
up ships the rest. -/
theorem ships_each_once (e : Setting) (threshold : Level) (site : Site) (requests : List Request) :
    ∃ outcomes shipments pending b level site',
      serve ⟨threshold, .batch e.formatter (create e.url e.labels e.room) (e.recorder [])⟩ site
          requests =
        (outcomes, ⟨level, .batch e.formatter b (e.recorder shipments)⟩, site') ∧
      Stands e (recordsOf threshold requests) shipments pending b ∧
      ((e.recorder shipments).sent.map fun s => (s.1, readPayload s.2)) = (shipments.map fun ps =>
        (e.url, some (e.labels, ps.map fun p => (timestampText p.time, e.formatter.render p)))) ∧
      (∀ q, ∃ o shipments' pending' b' site'',
        q.perform ⟨level, .batch e.formatter b (e.recorder shipments)⟩ site' =
          (o, ⟨q.next level, .batch e.formatter b' (e.recorder shipments')⟩, site'') ∧
        Stands e (recordsOf threshold requests ++ q.records level) shipments' pending' b' ∧
        Ships e shipments q o shipments' ∧ (q = .flush → pending' = [])) ∧
      ∃ o shipments' b',
        (Kind.batch e.formatter b (e.recorder shipments)).giveUp site' =
          ⟨o, .batch e.formatter b' (e.recorder shipments'), site'⟩ ∧
        Stands e (recordsOf threshold requests) shipments' [] b' ∧
        Ships e shipments .flush o shipments' := by
  have start : Keeps e [] (.batch e.formatter e.start (e.recorder [])) site :=
    ⟨[], [], e.start, rfl, stands_start⟩
  obtain ⟨os, k, site', served, length, -, shipments, pending, b, rfl, h⟩ :=
    serve_keeps perform_keeps start threshold requests
  rw [List.nil_append, map_fst_answered threshold length] at h
  refine ⟨os, shipments, pending, b, _, site', served, h, readPayloads e shipments,
    h.perform _ site', ?_⟩
  obtain ⟨r, shipments', b', flushed, h', ships⟩ := h.flush
  refine ⟨.ofExcept r, shipments', b', ?_, h', ships⟩
  simp only [Kind.giveUp, Kind.flush, flushed]

/-- A sink of batches of two, the first of which is not taken. -/
def refusing : Setting where
  formatter := ⟨"%v", [.message]⟩
  url := "push"
  labels := "app"
  room := 2
  planned := { answers := [some .stopped] }

/-- Three records, then a flush: the first shipment is lost and counted, the second has the rest. -/
example :
    let r := serve ⟨.trace, .batch refusing.formatter refusing.start (refusing.recorder [])⟩
      { disk := .fresh [] }
      [.log ⟨⟨0, 0⟩, "a", .info, "1"⟩, .log ⟨⟨0, 1⟩, "a", .info, "2"⟩,
        .log ⟨⟨0, 2⟩, "a", .info, "3"⟩, .flush]
    r.1 = [.ok, .failed .stopped, .ok, .ok] := by
  decide

end Batch

end Logworks
