import Logworks.Disk.Writer
import Logworks.Fault
import Logworks.Notice
import Logworks.Rotation.Slot

/-!
# Rotating logs

Lines are put at the end of an active file. When it has reached a size it is moved into slot 1,
after the history has moved up by one slot, and a new active file is begun. This file fixes

* `RotatingLog` -- the active file, its writer while there is one, and the size as counted;
* `RotatingLog.shiftHistory` -- **oldest slot first: the last slot is freed, then each slot moves
  up, under every suffix**;
* `RotatingLog.rotate` -- the writer is given up before anything is renamed; after a failure there
  is none;
* `RotatingLog.writeLine` -- a line, and a rotation once the size is reached. After a rotation that
  failed the log goes on in the file at its path, and counts from zero.
-/

namespace Logworks.Rotation

open Logworks.Disk Logworks.Text

structure RotatingLog where
  base : Path
  maxSize : Nat
  maxFiles : Nat
  /-- The suffixes under which a slot may hold its file, besides none. -/
  suffixes : List String
  writer : Option Writer
  /-- Octets in the active file, as counted since it was opened. -/
  size : Nat
  rotations : Nat := 0
  deriving DecidableEq, Repr

namespace RotatingLog

/-- The file at a path, opened for more lines, and its size. -/
def resume (path : Path) : Work (Writer × Nat) := do
  let h ← openAppend path
  return (⟨h, []⟩, h.size (← get))

/-- A log that goes on with what is at its path. -/
def create (base : Path) (maxSize maxFiles : Nat) (suffixes : List String) (d : Disk) :
    Except Fault RotatingLog × Disk :=
  if maxSize = 0 then
    (.error (.configuration "rotation" "max_size must be greater than zero"), d)
  else match (resume base).run d with
    | (.ok (w, size), d) => (.ok ⟨base, maxSize, maxFiles, suffixes, some w, size, 0⟩, d)
    | (.error c, d) =>
      (.error (.operation "opening log file" ("cannot open '" ++ base.toString ++ "'") c), d)

/-! ## History -/

/-- The paths a slot's file may have. -/
def slotPaths (l : RotatingLog) (index : Nat) : List Path :=
  variants l.suffixes (slot l.base index)

/-- Moves an entry if there is one. -/
def moveIfThere (source target : Path) : Work Unit := do
  if (← get).hasEntry source then replace source target

theorem run_moveIfThere (source target : Path) (d : Disk) :
    (moveIfThere source target).run d =
      if d.hasEntry source then (replace source target).run d else (.ok (), d) :=
  Work.run_if (·.hasEntry source) (replace source target) d

/-- Moves what a slot holds to the next one. -/
def shiftSlot (l : RotatingLog) (index : Nat) : Work Unit :=
  ((l.slotPaths index).zip (l.slotPaths (index + 1))).forM fun p => moveIfThere p.1 p.2

/-- Moves the slots below a number, the highest first. -/
def shiftSlots (l : RotatingLog) : Nat → Work Unit
  | 0 => pure ()
  | 1 => pure ()
  | n + 2 => do
    l.shiftSlot (n + 1)
    shiftSlots l (n + 1)

/-- Frees the last slot and moves each other one up. -/
def shiftHistory (l : RotatingLog) : Work Unit := do
  (l.slotPaths l.maxFiles).forM removeIfThere
  l.shiftSlots l.maxFiles

/-! ## Rotation -/

/-- The work of a rotation, each stage of which fails with words of its own. -/
abbrev Staged (α : Type) := ExceptT Fault (StateM Disk) α

def stage {α : Type} (l : RotatingLog) (words : String) (w : Work α) : Staged α :=
  ExceptT.adapt (fun c => .rotation l.base.toString (words ++ ": " ++ c.message)) w

/-- Writes what a writer gathered, and gives it up. -/
def finish (w : Option Writer) : Work Unit := fun d =>
  match w with
  | none => (.ok (), d)
  | some w =>
    match w.flush d with
    | (.ok (), _, d) => (.ok (), d)
    | (.error c, w, d) => (.error c, w.close d)

/-- Moves the active file into slot 1. -/
def retire (l : RotatingLog) : Staged Unit := do
  l.stage "Failed to shift history" l.shiftHistory
  l.stage "Failed to rotate current log file" (replace l.base (slot l.base 1))

/-- A new active file. Without slots the old one is emptied. -/
def renew (l : RotatingLog) : Staged Handle := do
  l.stage "Failed to flush before rotation" (finish l.writer)
  if 0 < l.maxFiles then l.retire
  l.stage "Failed to create new log file" (openFresh l.base)

def rotate (l : RotatingLog) (d : Disk) : Except Fault Unit × RotatingLog × Disk :=
  match l.renew.run d with
  | (.ok h, d) =>
    (.ok (), { l with writer := some ⟨h, []⟩, size := 0, rotations := l.rotations + 1 }, d)
  | (.error f, d) => (.error f, { l with writer := none }, d)

/-! ## Lines -/

/-- Opens the file at the path again, if there is no writer. -/
def reopen (l : RotatingLog) (d : Disk) : Except Fault Unit × RotatingLog × Disk :=
  match l.writer with
  | some _ => (.ok (), l, d)
  | none =>
    match (resume l.base).run d with
    | (.ok (w, size), d) => (.ok (), { l with writer := some w, size := size }, d)
    | (.error c, d) =>
      (.error (.operation "reopening log file" ("cannot reopen '" ++ l.base.toString ++ "'") c),
        l, d)

/-- How writing a line ended: whether a rotation came of it, and what was said. -/
structure LineEnd where
  result : Except Fault Bool
  log : RotatingLog
  disk : Disk
  notices : List Notice := []

/-- What is said when a rotation failed. -/
def rotationWarning (f : Fault) : Notice :=
  .warning ("Log rotation failed: " ++ f.message ++ ". Continuing with current file.")

/-- A rotation that a line has brought about. -/
def rotateAfterLine (l : RotatingLog) (d : Disk) : LineEnd :=
  match l.rotate d with
  | (.ok (), l, d) => ⟨.ok true, l, d, []⟩
  | (.error f, l, d) =>
    match l.reopen d with
    | (.error g, l, d) => ⟨.error g, l, d, [rotationWarning f]⟩
    | (.ok (), l, d) => ⟨.error f, { l with size := 0 }, d, [rotationWarning f]⟩

/-- Puts a line behind what a writer has. -/
def appendLine (l : RotatingLog) (w : Writer) (line : String) (d : Disk) :
    Except Fault Unit × RotatingLog × Disk :=
  match w.writePieces d [octetsOf line, [lineFeed]] with
  | (.error c, w, d) => (.error (.io c), { l with writer := some w }, d)
  | (.ok (), w, d) =>
    (.ok (), { l with writer := some w, size := l.size + (octetsOf line).length + 1 }, d)

/-- Puts a line behind the active file, which is opened again if it has to be. -/
def takeLine (l : RotatingLog) (line : String) (d : Disk) :
    Except Fault Unit × RotatingLog × Disk :=
  match l.reopen d with
  | (.error f, l, d) => (.error f, l, d)
  | (.ok (), l, d) =>
    match l.writer with
    | some w => l.appendLine w line d
    | none => (.error (.unavailable l.base.toString), l, d)

def writeLine (l : RotatingLog) (line : String) (d : Disk) : LineEnd :=
  match l.takeLine line d with
  | (.error f, l, d) => ⟨.error f, l, d, []⟩
  | (.ok (), l, d) => if l.maxSize ≤ l.size then l.rotateAfterLine d else ⟨.ok false, l, d, []⟩

def flush (l : RotatingLog) (d : Disk) : Except Fault Unit × RotatingLog × Disk :=
  match l.writer with
  | none => (.ok (), l, d)
  | some w =>
    match w.flush d with
    | (.ok (), w, d) => (.ok (), { l with writer := some w }, d)
    | (.error c, w, d) => (.error (.io c), { l with writer := some w }, d)

/-- The disk after the log was given up. -/
def close (l : RotatingLog) (d : Disk) : Disk := closeWriter l.writer d

end RotatingLog

end Logworks.Rotation
