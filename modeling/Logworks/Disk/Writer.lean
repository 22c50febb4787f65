import Logworks.Disk.Handle

/-!
# Buffered writing

A writer gathers octets and writes them in one piece: when the next ones have no room beside
those gathered, when it is flushed, or when it is closed. Octets that would fill the room on their
own are not gathered. A flush that fails keeps what was not written. This file fixes

* `Writer.write` and `Writer.flush`, with why they fail;
* `Writer.close` -- a flush whose failure nobody hears of.
-/

namespace Logworks.Disk

open Logworks.Text

/-- The room of a writer. -/
def writerRoom : Nat := 8192

structure Writer where
  handle : Handle
  pending : Octets := []
  deriving DecidableEq, Repr

/-- The cause of a write that took nothing, by what was being written. -/
def stalledText : String := "failed to write whole buffer"
def stalledFlushText : String := "failed to write the buffered data"

namespace Writer

/-- How a step of a writer ended, with the writer and the disk. -/
abbrev Step := Except Cause Unit × Writer × Disk

/-- Writes what was gathered. -/
def flush (w : Writer) (d : Disk) : Step :=
  match w.handle.writeAll w.pending d with
  | (.all, h, d) => (.ok (), ⟨h, []⟩, d)
  | (.stalled rest, h, d) => (.error (.text stalledFlushText), ⟨h, rest⟩, d)
  | (.failed c rest, h, d) => (.error (.system c), ⟨h, rest⟩, d)

/-- Writes octets past what was gathered, of which there is none. -/
def direct (w : Writer) (bytes : Octets) (d : Disk) : Step :=
  match w.handle.writeAll bytes d with
  | (.all, h, d) => (.ok (), { w with handle := h }, d)
  | (.stalled _, h, d) => (.error (.text stalledText), { w with handle := h }, d)
  | (.failed c _, h, d) => (.error (.system c), { w with handle := h }, d)

def gather (w : Writer) (bytes : Octets) : Writer := { w with pending := w.pending ++ bytes }

/-- Gathers octets, or writes them at once if they would fill the room. -/
def gatherOrDirect (w : Writer) (bytes : Octets) (d : Disk) : Step :=
  if writerRoom ≤ bytes.length then w.direct bytes d else (.ok (), w.gather bytes, d)

def write (w : Writer) (bytes : Octets) (d : Disk) : Step :=
  if w.pending.length + bytes.length ≤ writerRoom then w.gatherOrDirect bytes d
  else match w.flush d with
    | (.ok (), w, d) => w.gatherOrDirect bytes d
    | failed => failed

/-- Writes pieces one after the other, up to the first that fails. -/
def writePieces (w : Writer) (d : Disk) : List Octets → Step
  | [] => (.ok (), w, d)
  | b :: bs =>
    match w.write b d with
    | (.ok (), w, d) => writePieces w d bs
    | failed => failed

/-- The disk after a writer was given up. -/
def close (w : Writer) (d : Disk) : Disk := (w.flush d).2.2

end Writer

/-- Gives up a writer, if there is one. -/
def closeWriter (w : Option Writer) (d : Disk) : Disk :=
  match w with
  | some w => w.close d
  | none => d

end Logworks.Disk
