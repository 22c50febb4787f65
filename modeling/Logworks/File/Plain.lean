import Logworks.Disk.Writer
import Logworks.Fault

/-!
# A log in one file

Lines are put at the end of one file. A log whose file could not be opened stays without one: it
takes no line, and says so each time.
-/

namespace Logworks.File

open Logworks.Disk Logworks.Text

structure PlainLog where
  path : Path
  writer : Option Writer
  deriving DecidableEq, Repr

namespace PlainLog

/-- The log at a path, and why its file could not be opened. -/
def create (path : Path) (d : Disk) : Except Cause Unit × PlainLog × Disk :=
  match (openAppend path).run d with
  | (.ok h, d) => (.ok (), ⟨path, some ⟨h, []⟩⟩, d)
  | (.error c, d) => (.error c, ⟨path, none⟩, d)

/-- What is said of a file that could not be opened. -/
def openingWords (path : Path) (c : Cause) : String :=
  "Cannot open log file '" ++ path.toString ++ "': " ++ c.message

/-- The fault of a file that had to be opened. -/
def openingFault (path : Path) (c : Cause) : Fault :=
  .operation "opening log file" ("cannot open '" ++ path.toString ++ "'") c

/-- Why a step of a writer failed. -/
def fault : Except Cause Unit → Except Fault Unit
  | .ok () => .ok ()
  | .error c => .error (.io c)

def writeLine (l : PlainLog) (line : String) (d : Disk) : Except Fault Unit × PlainLog × Disk :=
  match l.writer with
  | none => (.error (.unavailable l.path.toString), l, d)
  | some w =>
    let (r, w, d) := w.writePieces d [octetsOf line, [lineFeed]]
    (fault r, { l with writer := some w }, d)

def flush (l : PlainLog) (d : Disk) : Except Fault Unit × PlainLog × Disk :=
  match l.writer with
  | none => (.ok (), l, d)
  | some w =>
    let (r, w, d) := w.flush d
    (fault r, { l with writer := some w }, d)

end PlainLog

end Logworks.File
