import Logworks.Codec.Gzip
import Logworks.Codec.Zstd
import Logworks.Disk.Handle
import Logworks.Fault

/-!
# Codecs

A codec turns one file into another and tells the size of the result. The two of the library write
into a file beside the target and rename it when it is whole, so that what stands at the target
was either there before or is complete; **a file left half-way is removed**. The simple ones write
a part of the source straight to the target.
-/

namespace Logworks

open Logworks.Disk Logworks.Text

structure Codec where
  name : String
  /-- What is put behind the name of a compressed file. -/
  suffix : String
  /-- Compresses the file at the first path into the second; the answer is its size. -/
  compress : Path → Path → Disk → Except Fault Nat × Disk

namespace Codec

/-! ## Through a file beside the target -/

def besideTarget (target : Path) : Path := target.withSuffix ".tmp"

/-- A stage that fails removes the half-way file, and says what it was about. -/
def stage {α : Type} (source target : Path) (words : String) (w : Work α) :
    ExceptT Fault (StateM Disk) α := fun d =>
  match w.run d with
  | (.ok a, d) => (.ok a, d)
  | (.error c, d) =>
    (.error (.operation "compressing log file" (words ++ " '" ++ source.toString ++ "'") c),
      ((removeFile (besideTarget target)).run d).2)

/-- A path that can be opened for reading: also one of a directory. -/
def openSource (p : Path) : Work Unit := do
  mishap
  change fun d => (d.look? p).map fun _ => ((), d)

/-- Writes the encoded octets of the source. -/
def encodeInto (encode : Octets → Octets) (source : Path) (h : Handle) : Work Unit := fun d =>
  match d.read? source with
  | .error c => (.error c, d)
  | .ok bytes =>
    match h.writeAll (encode bytes) d with
    | (.all, _, d) => (.ok (), d)
    | (.stalled _, _, d) => (.error (.text "failed to write the buffered data"), d)
    | (.failed c _, _, d) => (.error (.system c), d)

/-- Compresses by way of a file beside the target. -/
def throughBeside (encode : Octets → Octets) (source target : Path) :
    ExceptT Fault (StateM Disk) Nat := do
  stage source target "cannot open" (openSource source)
  let h ← stage source target "cannot create temp file for" (openFresh (besideTarget target))
  stage source target "encoding failed for" (encodeInto encode source h)
  stage source target "cannot move compressed output of" (rename (besideTarget target) target)
  return (← get).fileSize target

def gzip : Codec where
  name := "gzip"
  suffix := ".gz"
  compress source target d := (throughBeside Gzip.encode source target).run d

def zstd : Codec where
  name := "zstd"
  suffix := ".zst"
  compress source target d := (throughBeside Zstd.encode source target).run d

/-! ## Simple codecs -/

/-- What a simple codec makes of its source. -/
inductive Simple where
  | copy | half | empty | unavailable | steal
  deriving DecidableEq, Repr

namespace Simple

/-- The octets that are written. -/
def output : Simple → Octets → Octets
  | half, bytes => bytes.take (bytes.length / 2)
  | empty, _ => []
  | _, bytes => bytes

/-- Writes a whole file in place of what is there. -/
def writeWhole (target : Path) (bytes : Octets) : Work Nat := do
  let h ← openFresh target
  let (r, _, d) := h.writeAll bytes (← get)
  set d
  match r with
  | .all => return bytes.length
  | .stalled _ => throw (.text "failed to write whole buffer")
  | .failed c _ => throw (.system c)

def work (s : Simple) (source target : Path) : Work Nat := do
  let bytes ← change fun d => (d.read? source).map fun bytes => (bytes, d)
  if s = steal then removeFile source
  writeWhole target (s.output bytes)

def compress (s : Simple) (source target : Path) (d : Disk) : Except Fault Nat × Disk :=
  match s with
  | unavailable =>
    match d.read? source with
    | .ok _ => (.error (.other "codec unavailable"), d)
    | .error c => (.error (.io c), d)
  | _ => (ExceptT.adapt Fault.io (s.work source target)).run d

def name : Simple → String
  | copy => "copy"
  | half => "half"
  | empty => "empty"
  | unavailable => "error"
  | steal => "steal"

def ofName? (name : String) : Option Simple :=
  [copy, half, empty, unavailable, steal].find? fun s => s.name == name

def codec (s : Simple) (suffix : String) : Codec := ⟨s.name, suffix, s.compress⟩

end Simple

/-- What a file holds: octets as they are, or the octets of a compressed file. -/
inductive Contents where
  | plain (bytes : Octets)
  | gzip (bytes : Octets)
  | zstd (bytes : Octets)
  deriving DecidableEq, Repr

def Contents.ofOctets (bytes : Octets) : Contents :=
  match Gzip.decode? bytes, Zstd.decode? bytes with
  | some inner, _ => .gzip inner
  | none, some inner => .zstd inner
  | none, none => .plain bytes

end Codec

end Logworks
