import Logworks.Fault
import Logworks.Json.Value
import Logworks.Time.Instant

/-!
# Shipments

Lines are gathered and handed to a transport in batches: when there are enough of them, and when
the batch is flushed. A batch is gone once it was handed over, whether the transport took it or
not. This file fixes

* `Batch` with its room, which is at least 1;
* `Batch.payload` -- the document a batch is shipped as;
* `Batch.add`, `Batch.flush` -- **nothing is shipped twice, and nothing empty is shipped**.
-/

namespace Logworks.Batch

open Logworks.Json Logworks.Time

/-- A line and when it was made. -/
structure Item where
  time : Instant
  line : String
  deriving DecidableEq, Repr

/-- Takes the document of a batch for an address, or says why not. -/
structure Transport (σ : Type) where
  send : String → String → σ → Except Fault Unit × σ

end Batch

open Batch

structure Batch where
  url : String
  /-- What the lines have in common. -/
  labels : String
  room : Nat := 10
  pending : List Item := []
  /-- Batches the transport did not take. -/
  failed : Nat := 0
  deriving DecidableEq, Repr

namespace Batch

open Logworks.Json Logworks.Time

def create (url labels : String) (room : Nat) : Batch := { url, labels, room := max room 1 }

/-- The nanoseconds since the epoch, 0 if sixty-four bits have no room for them. -/
def timestamp (t : Instant) : Int :=
  let nanos := t.seconds * 1000000000 + t.nanos
  if -0x8000000000000000 ≤ nanos ∧ nanos < 0x8000000000000000 then nanos else 0

def timestampText (t : Instant) : String := String.ofList (Value.wholeLiteral (timestamp t))

/-- The document of one line, its members by ascending names. -/
def itemValue (i : Item) : Value :=
  .object [("line", .text i.line), ("ts", .text (timestampText i.time))]

def payloadValue (labels : String) (items : List Item) : Value :=
  .object [("streams", .array
    [.object [("entries", .array (items.map itemValue)), ("labels", .text labels)]])]

def payload (labels : String) (items : List Item) : String := (payloadValue labels items).render

/-- Ships what is pending. -/
def flush {σ : Type} (t : Transport σ) (b : Batch) (s : σ) : Except Fault Unit × Batch × σ :=
  if b.pending.isEmpty then (.ok (), b, s)
  else match t.send b.url (payload b.labels b.pending) s with
    | (.ok (), s) => (.ok (), { b with pending := [] }, s)
    | (.error f, s) => (.error f, { b with pending := [], failed := b.failed + 1 }, s)

/-- Gathers a line, and ships the batch if it is full. -/
def add {σ : Type} (t : Transport σ) (b : Batch) (i : Item) (s : σ) :
    Except Fault Unit × Batch × σ :=
  let b := { b with pending := b.pending ++ [i] }
  if b.room ≤ b.pending.length then b.flush t s else (.ok (), b, s)

end Batch

/-! ## A transport that keeps what it is given -/

namespace Batch

/-- What was handed over, and what comes of it: first what is planned for one batch after the
other, then the same for each. -/
structure Recorder where
  refuses : Bool := false
  /-- Why the first batches are not taken, if they are not. -/
  answers : List (Option Fault) := []
  sent : List (String × String) := []
  deriving DecidableEq, Repr

namespace Recorder

/-- What comes of handing over the batch of a number. -/
def answerTo (r : Recorder) (url : String) (number : Nat) : Except Fault Unit :=
  match r.answers[number]? with
  | some (some f) => .error f
  | some none => .ok ()
  | none => if r.refuses then .error (.network url "503") else .ok ()

def transport : Transport Recorder where
  send url payload r :=
    (r.answerTo url r.sent.length, { r with sent := r.sent ++ [(url, payload)] })

end Recorder

end Batch

end Logworks
