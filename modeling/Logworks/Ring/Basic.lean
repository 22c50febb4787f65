import Logworks.Disk.Handle
import Logworks.Fault
import Logworks.Level

/-!
# The ring

Records for the moment of a crash go into a ring of octets that is never enlarged, and from there
to a file. Two cursors count the octets read and written, as machine words that wrap; an octet
lies in the slot of its position modulo the capacity. This file fixes

* `Ring.produce` -- a record is taken whole or not at all, and only one longer than the capacity
  is not; **a ring that is more than half full afterwards is drained**;
* `Ring.drain` -- what was not read yet is written, in two chunks at most, and given up whether
  that succeeds or not;
* `Ring.flush` -- a drain whose failure is told, and then the file is synced.
-/

namespace Logworks

open Disk Text

/-- A ring whose cursors have `w` bits. -/
structure Ring (w : Nat) where
  path : Path
  /-- The file, if it could be opened. -/
  handle : Option Handle
  capacity : Nat
  slots : Array UInt8
  written : BitVec w := 0
  read : BitVec w := 0
  /-- Records that were not taken. -/
  dropped : Nat := 0
  /-- Chunks that were not written to their end. -/
  writeErrors : Nat := 0
  /-- Why the last of them was not; nothing if an attempt took nothing. -/
  lastError : Option SystemCause := none
  deriving DecidableEq, Repr

namespace Ring

variable {w : Nat}

/-- The most octets a ring may have. -/
def greatestCapacity : Nat := 1048576

def standardCapacity : Nat := 65536

/-- What is said of a file that could not be opened. -/
def openingWords (path : Path) (c : Cause) : String :=
  "Cannot open signal-safe log file '" ++ path.toString ++ "': " ++ c.message

/-- An empty ring of a wanted size before a file. -/
def empty (path : Path) (handle : Option Handle) (size : Nat) : Ring w :=
  let capacity := min (max size 1) greatestCapacity
  { path, handle, capacity, slots := Array.replicate capacity 0 }

/-- A ring before the file at a path, and why that could not be opened. -/
def create (path : Path) (size : Nat) (d : Disk) : Except Cause Unit × Ring w × Disk :=
  match (openAppend path).run d with
  | (.ok h, d) => (.ok (), empty path (some h) size, d)
  | (.error c, d) => (.error c, empty path none size, d)

def isReady (r : Ring w) : Bool := r.handle.isSome

/-- The octets that were written and not read. -/
def buffered (r : Ring w) : Nat := (r.written - r.read).toNat

def room (r : Ring w) : Nat := r.capacity - r.buffered

/-! ## Draining -/

/-- The next octets to read that lie in a row. -/
def chunk (r : Ring w) : Octets :=
  let start := r.read.toNat % r.capacity
  (r.slots.extract start (start + min r.buffered (r.capacity - start))).toList

/-- The ring after a chunk was read, and what came of writing it. -/
def afterChunk (r : Ring w) (h : Handle) (length : Nat) : Written → Ring w
  | .all => { r with handle := some h, read := r.read + BitVec.ofNat w length }
  | .stalled _ =>
    { r with handle := some h, read := r.read + BitVec.ofNat w length,
             writeErrors := r.writeErrors + 1, lastError := none }
  | .failed c _ =>
    { r with handle := some h, read := r.read + BitVec.ofNat w length,
             writeErrors := r.writeErrors + 1, lastError := some c }

/-- Whether a chunk was written whole. -/
def isWhole : Written → Bool
  | .all => true
  | _ => false

/-- Reads and writes chunks until nothing is left, at most so many; whether each was written
whole. -/
def drainChunks : Nat → Ring w → Handle → Disk → Bool × Ring w × Disk
  | 0, r, _, d => (true, r, d)
  | n + 1, r, h, d =>
    if r.buffered = 0 then (true, r, d)
    else
      let bytes := r.chunk
      let (e, h, d) := h.writeAll bytes d
      let (ok, r, d) := drainChunks n (r.afterChunk h bytes.length e) h d
      (isWhole e && ok, r, d)

/-- The unread octets lie in a row, or in two. -/
def mostChunks : Nat := 2

/-- Writes what was not read; nothing if there is no file. -/
def drain (r : Ring w) (d : Disk) : Option Bool × Ring w × Disk :=
  match r.handle with
  | none => (none, r, d)
  | some h =>
    let (ok, r, d) := drainChunks mostChunks r h d
    (some ok, r, d)

/-! ## Records -/

def drop (r : Ring w) : Ring w := { r with dropped := r.dropped + 1 }

/-- Puts one octet behind the last one. -/
def push (r : Ring w) (b : UInt8) : Ring w :=
  { r with
    slots := r.slots.setIfInBounds (r.written.toNat % r.capacity) b
    written := r.written + 1 }

/-- Takes a record if it has room, once the ring was drained if it must be. -/
def reserve (r : Ring w) (bytes : Octets) (d : Disk) : Bool × Ring w × Disk :=
  if r.capacity < bytes.length then (false, r, d)
  else if bytes.length ≤ r.room then (true, bytes.foldl push r, d)
  else
    let (_, r, d) := r.drain d
    if bytes.length ≤ r.room then (true, bytes.foldl push r, d) else (false, r, d)

/-- Takes a record or counts it as dropped. -/
def produce (r : Ring w) (bytes : Octets) (d : Disk) : Bool × Ring w × Disk :=
  if !r.isReady then (false, r.drop, d)
  else match r.reserve bytes d with
    | (false, r, d) => (false, r.drop, d)
    | (true, r, d) =>
      if r.capacity / 2 < r.buffered then
        let (_, r, d) := r.drain d
        (true, r, d)
      else (true, r, d)

/-- The octets of a record: its level and its message as it is. -/
def recordOctets (level : Level) (message : String) : Octets :=
  octets ('[' :: level.name.toList ++ "] ".toList ++ message.toList ++ ['\n'])

/-- Whether everything was written. -/
def flushBuffer (r : Ring w) (d : Disk) : Bool × Ring w × Disk :=
  let (e, r, d) := r.drain d
  (e == some true, r, d)

/-- The cause of the last chunk that was not written. -/
def lastCause (r : Ring w) : Cause :=
  match r.lastError with
  | some c => .system c
  | none => .text "write returned zero bytes"

/-- What is told of a file that was to be synced. One that has nothing to sync is as good as one
that was synced. -/
def syncEnd (path : Path) : Option SystemCause → Except Fault Unit
  | none | some .invalidArgument => .ok ()
  | some c => .error (.operation "syncing signal-safe log" path.toString (.system c))

/-- Syncs the file, if there is one. -/
def sync (r : Ring w) (d : Disk) : Except Fault Unit × Disk :=
  match r.handle with
  | none => (.ok (), d)
  | some h =>
    let (c, d) := h.sync d
    (syncEnd r.path c, d)

def flush (r : Ring w) (d : Disk) : Except Fault Unit × Ring w × Disk :=
  match r.drain d with
  | (some false, r, d) =>
    (.error (.operation "writing signal-safe log" r.path.toString r.lastCause), r, d)
  | (_, r, d) =>
    let (e, d) := r.sync d
    (e, r, d)

end Ring

end Logworks
