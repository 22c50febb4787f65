import Logworks.Disk.Writer
import Logworks.Fault
import Logworks.Json.Pieces
import Logworks.Level
import Logworks.Time.Instant

/-!
# A log of documents

Each record is one document on a line of its own, with four members: when, which logger, at which
level, and the message.
-/

namespace Logworks.File

open Logworks.Disk Logworks.Text Logworks.Time

structure DocumentLog where
  path : Path
  writer : Writer
  deriving DecidableEq, Repr

namespace DocumentLog

def create (path : Path) (d : Disk) : Except Fault DocumentLog × Disk :=
  match (openAppend path).run d with
  | (.ok h, d) => (.ok ⟨path, ⟨h, []⟩⟩, d)
  | (.error c, d) =>
    (.error (.operation "opening json log" ("cannot open '" ++ path.toString ++ "'") c), d)

/-- The members of a record's document. -/
def members (time : Instant) (logger : String) (level : Level) (message : String) :
    List (String × String) :=
  [("timestamp", String.ofList time.millisecondText), ("logger", logger), ("level", level.name),
    ("message", message)]

/-- Writes the document, then the end of its line. -/
def append (w : Writer) (document : List Octets) (d : Disk) :
    Except Fault Unit × Writer × Disk :=
  match w.writePieces d document with
  | (.error c, w, d) => (.error (.document (.unwritten c)), w, d)
  | (.ok (), w, d) =>
    match w.write [lineFeed] d with
    | (.error c, w, d) => (.error (.io c), w, d)
    | (.ok (), w, d) => (.ok (), w, d)

def write (l : DocumentLog) (time : Instant) (logger : String) (level : Level)
    (message : String) (d : Disk) : Except Fault Unit × DocumentLog × Disk :=
  let document := (Json.objectPieces (members time logger level message)).map octets
  let (r, w, d) := append l.writer document d
  (r, { l with writer := w }, d)

def flush (l : DocumentLog) (d : Disk) : Except Fault Unit × DocumentLog × Disk :=
  match l.writer.flush d with
  | (.ok (), w, d) => (.ok (), { l with writer := w }, d)
  | (.error c, w, d) => (.error (.io c), { l with writer := w }, d)

end DocumentLog

end Logworks.File
