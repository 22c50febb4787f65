import Logworks.Codec.Basic
import Logworks.Json.Reader
import Logworks.Number.Binary64
import Logworks.Rotation.Log

/-!
# Rotating logs with a compressed history

After a rotation that a line has brought about, the file in slot 1 is compressed. Only when there
is a result that is not empty is the file itself removed; whatever fails before leaves it as it
was. This file fixes

* `Options` as read from a document;
* `Tally` -- how many files were compressed, from how many octets to how many, and how many could
  not be;
* `CompressedLog.compressNewest`, `CompressedLog.writeLine`.
-/

namespace Logworks.Rotation

open Logworks.Codec Logworks.Disk Logworks.Json Logworks.Number

/-! ## Options -/

inductive Kind where
  | plain | gzip | zstd
  deriving DecidableEq, Repr

structure Options where
  kind : Kind := .gzip
  level : Int := 6
  onRotate : Bool := true
  deriving DecidableEq, Repr

namespace Options

def Kind.title : Kind → String
  | .plain => "None"
  | .gzip => "Gzip"
  | .zstd => "Zstd"

def Kind.reader : Reader Kind :=
  Reader.choice ([Kind.plain, .gzip, .zstd].map fun k => (Kind.title k, .bare k))

/-- A field as read from a document. -/
inductive Entry where
  | kind (k : Kind)
  | level (z : Int)
  | onRotate (b : Bool)

def set (o : Options) : Entry → Options
  | .kind k => { o with kind := k }
  | .level z => { o with level := z }
  | .onRotate b => { o with onRotate := b }

/-- Levels have thirty-two bits with a sign. -/
def levelReader : Reader Int := Reader.integer (-2147483648) 2147483647 "i32"

def reader : Reader Options :=
  (Reader.record "CompressionOptions" ⟨false, false⟩
    [⟨"kind", Kind.reader.map .kind⟩, ⟨"level", levelReader.map .level⟩,
     ⟨"compress_on_rotate", Reader.truth.map .onRotate⟩]).map fun entries =>
    entries.foldl (fun o e => o.set e.2) {}

def toValue (o : Options) : Value :=
  .object [("kind", .text (Kind.title o.kind)), ("level", .whole o.level),
    ("compress_on_rotate", .bool o.onRotate)]

/-- The codec of a kind. The level shows in no result. -/
def codec? (o : Options) : Option Codec :=
  match o.kind with
  | .plain => none
  | .gzip => some Codec.gzip
  | .zstd => some Codec.zstd

end Options

/-! ## The log -/

/-- What became of the files that were to be compressed. -/
structure Tally where
  files : Nat := 0
  /-- The octets of the files before. -/
  sizeBefore : Nat := 0
  /-- The octets of what they became. -/
  sizeAfter : Nat := 0
  failures : Nat := 0
  deriving DecidableEq, Repr

namespace Tally

/-- Octets before for each octet after; 0 before the first file. -/
def ratio (t : Tally) : Binary64 :=
  if t.sizeAfter = 0 then .zero false else (Binary64.ofNat t.sizeBefore).div (.ofNat t.sizeAfter)

def success (t : Tally) (before after : Nat) : Tally :=
  { t with
    files := t.files + 1
    sizeBefore := t.sizeBefore + before
    sizeAfter := t.sizeAfter + after }

def failure (t : Tally) : Tally := { t with failures := t.failures + 1 }

end Tally

structure CompressedLog where
  log : RotatingLog
  options : Options
  codec : Option Codec
  tally : Tally := {}

namespace CompressedLog

def create (base : Path) (maxSize maxFiles : Nat) (options : Options) (codec : Option Codec)
    (d : Disk) : Except Fault CompressedLog × Disk :=
  match RotatingLog.create base maxSize maxFiles (codec.toList.map Codec.suffix) d with
  | (.ok log, d) => (.ok { log, options, codec }, d)
  | (.error f, d) => (.error f, d)

/-- How a line or a compression ended, and what was said. -/
structure LineEnd where
  result : Except Fault Unit
  log : CompressedLog
  disk : Disk
  notices : List Notice := []

/-- What is said of a file that stays beside its compressed form. -/
def leftBehind (source : Path) (c : Cause) : Notice :=
  .warning ("Compression succeeded but failed to remove original file " ++ source.toString ++
    ": " ++ c.message ++ ". Both compressed and uncompressed versions exist.")

/-- Removes the source of a compression that succeeded. -/
def dropSource (l : CompressedLog) (source : Path) (before after : Nat) (d : Disk) : LineEnd :=
  let l := { l with tally := l.tally.success before after }
  match (removeFile source).run d with
  | (.ok (), d) => ⟨.ok (), l, d, []⟩
  | (.error c, d) => ⟨.ok (), l, d, [leftBehind source c]⟩

/-- Compresses one file into another. -/
def compressFile (l : CompressedLog) (codec : Codec) (source target : Path) (d : Disk) :
    LineEnd :=
  let before := d.fileSize source
  match codec.compress source target d with
  | (.ok 0, d) =>
    ⟨.error (.compression source.toString "compressed output is empty"),
      { l with tally := l.tally.failure }, ((removeFile target).run d).2, []⟩
  | (.ok (n + 1), d) => l.dropSource source before (n + 1) d
  | (.error f, d) =>
    ⟨.error (.compression source.toString f.message), { l with tally := l.tally.failure }, d, []⟩

/-- Compresses the file in slot 1, if there is one and it is wanted. -/
def compressNewest (l : CompressedLog) (d : Disk) : LineEnd :=
  match l.codec with
  | none => ⟨.ok (), l, d, []⟩
  | some codec =>
    let source := slot l.log.base 1
    if l.options.onRotate && d.hasEntry source then
      l.compressFile codec source (source.withSuffix codec.suffix) d
    else ⟨.ok (), l, d, []⟩

def writeLine (l : CompressedLog) (line : String) (d : Disk) : LineEnd :=
  let e := l.log.writeLine line d
  let l := { l with log := e.log }
  match e.result with
  | .error f => ⟨.error f, l, e.disk, e.notices⟩
  | .ok false => ⟨.ok (), l, e.disk, e.notices⟩
  | .ok true =>
    let c := l.compressNewest e.disk
    { c with notices := e.notices ++ c.notices }

end CompressedLog

end Logworks.Rotation
