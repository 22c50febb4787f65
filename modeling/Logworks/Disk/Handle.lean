import Logworks.Disk.Names

/-!
# Open files

A handle leads to the contents of a file, whatever becomes of its name. One kind writes at the end
of the file wherever that is now, the other at a position of its own. This file fixes

* `openAppend`, `openFresh` -- both make the file if it is not there; the second empties it;
* `Handle.attempt` -- one attempt to write, which may take a part only;
* `Handle.writeAll` -- attempts until everything is taken or one fails: **what was taken is a
  front part of what was given**;
* `Handle.sync` -- a file is kept for good; a device has nothing to keep.
-/

namespace Logworks.Disk

open Logworks.Text

/-- What a handle leads to. -/
inductive Target where
  | file (number : Nat)
  | device (d : Device)
  deriving DecidableEq, Repr

structure Handle where
  target : Target
  /-- The position of the next write; without one it is the end of the file. -/
  position : Option Nat := none
  deriving DecidableEq, Repr

/-- The file a path leads to, made if nothing stands there. -/
def target (p : Path) (d : Disk) : Except Cause (Target × Disk) :=
  match d.find .make p with
  | .ok (.named _ (some (.file n)) _) => .ok (.file n, d)
  | .ok (.named _ (some (.device v)) _) => .ok (.device v, d)
  | .ok (.named _ (some _) _) | .ok (.unnamed _) => .error (.system .isADirectory)
  | .ok (.named place none _) =>
    let number := d.contents.length
    .ok (.file number, { d.put place (.file number) with contents := d.contents ++ [[]] })
  | .error c => .error c

/-- A handle that writes at the end of the file. -/
def openAppend (p : Path) : Work Handle := do
  mishap
  return ⟨← change (target p), none⟩

/-- The disk with a file emptied. -/
def emptied (t : Target) (d : Disk) : Disk :=
  match t with
  | .file n => d.setOctets n []
  | .device _ => d

/-- A handle on an empty file that writes from its start. -/
def openFresh (p : Path) : Work Handle := do
  mishap
  let t ← change (target p)
  modify (emptied t)
  return ⟨t, some 0⟩

namespace Handle

/-- The size of the file. -/
def size (h : Handle) (d : Disk) : Nat :=
  match h.target with
  | .file n => (d.octetsOf n).length
  | .device _ => 0

/-- Octets laid over others from a position on; a gap before it is filled with zeros. -/
def overwrite (position : Nat) (bytes old : Octets) : Octets :=
  old.take position ++ List.replicate (position - old.length) 0 ++ bytes ++
    old.drop (position + bytes.length)

/-- The handle and the disk after octets were taken. -/
def taken (h : Handle) (bytes : Octets) (d : Disk) : Handle × Disk :=
  match h.target with
  | .device _ => (h, d)
  | .file n =>
    match h.position with
    | none => (h, d.setOctets n (d.octetsOf n ++ bytes))
    | some k =>
      ({ h with position := some (k + bytes.length) },
        d.setOctets n (overwrite k bytes (d.octetsOf n)))

/-- What the next attempt comes to, if nothing is planned. -/
def natural (h : Handle) (octets : Nat) : Attempt :=
  match h.target with
  | .device .full => .fails .noSpaceLeft
  | _ => .takes octets

end Handle

/-- How writing ended: all taken, or why not, with what was left. -/
inductive Written where
  | all
  /-- An attempt took nothing and gave no cause. -/
  | stalled (rest : Octets)
  | failed (c : SystemCause) (rest : Octets)
  deriving DecidableEq, Repr

namespace Handle

/-- Writes without any mishap. -/
def writePlain (h : Handle) (bytes : Octets) (d : Disk) : Written × Handle × Disk :=
  match h.natural bytes.length with
  | .fails c => (.failed c bytes, h, d)
  | _ =>
    let (h, d) := h.taken bytes d
    (.all, h, d)

/-- Writes while attempts are planned, then without mishap. -/
def writeAttempts : List Attempt → Handle → Octets → Disk → Written × Handle × Disk
  | plan, h, [], d => (.all, h, { d with mishaps := { d.mishaps with writes := plan } })
  | [], h, bytes, d => h.writePlain bytes { d with mishaps := { d.mishaps with writes := [] } }
  | a :: plan, h, bytes, d =>
    match h.natural bytes.length, a with
    | .fails c, _ | _, .fails c =>
      (.failed c bytes, h, { d with mishaps := { d.mishaps with writes := plan } })
    | _, .interrupted => writeAttempts plan h bytes d
    | _, .refused | _, .takes 0 =>
      (.stalled bytes, h, { d with mishaps := { d.mishaps with writes := plan } })
    | _, .takes (n + 1) =>
      let (h, d) := h.taken (bytes.take (n + 1)) d
      writeAttempts plan h (bytes.drop (n + 1)) d

/-- Writes until everything is taken or an attempt fails. -/
def writeAll (h : Handle) (bytes : Octets) (d : Disk) : Written × Handle × Disk :=
  writeAttempts d.mishaps.writes h bytes d

end Handle

/-- The disk after a file was synced, or was not. -/
def synced (d : Disk) : Disk :=
  { d with mishaps := { d.mishaps with syncs := d.mishaps.syncs.tail } }

/-- Why what was written is not kept for good, if it is not. -/
def Handle.sync (h : Handle) (d : Disk) : Option SystemCause × Disk :=
  match h.target with
  | .file _ => (d.mishaps.syncs.head?.join, d.synced)
  | .device _ => (some .invalidArgument, d)

end Logworks.Disk
