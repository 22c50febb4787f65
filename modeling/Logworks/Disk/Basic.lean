import Logworks.Cause
import Logworks.Disk.Path
import Logworks.Text.Octets

/-!
# The disk

A disk has entries at places and contents of files. A place is the list of names that leads to it
from the top. An entry says where the contents are, so a file that is renamed or removed keeps its
contents for those who have it open. This file fixes

* `Disk` with its entries and contents;
* `Disk.find` -- the place a path leads to, or why it leads nowhere: **how a path ends is taken by
  what it is wanted for**;
* `Disk.look?` -- what stands where a path leads;
* `Mishaps` -- operations that are going to fail, **none on a disk as it is made**.
-/

namespace Logworks

namespace Disk

abbrev Name := List Char

/-- The names that lead to an entry from the top. -/
abbrev Place := List Name

/-- Devices that take what is written and keep nothing. -/
inductive Device where
  /-- Takes everything. -/
  | null
  /-- Has no room for anything. -/
  | full
  deriving DecidableEq, Repr

/-- What stands at a place. -/
inductive Entry where
  | file (number : Nat)
  | directory
  /-- Leads to a path, from the directory of the link or from the top. -/
  | link (target : Path)
  | device (d : Device)
  deriving DecidableEq, Repr

/-- What comes of one attempt to write. -/
inductive Attempt where
  /-- No more than so many octets are taken. -/
  | takes (octets : Nat)
  /-- Nothing is taken, and the same may be tried again. -/
  | interrupted
  /-- Nothing is taken, without a cause. -/
  | refused
  | fails (c : SystemCause)
  deriving DecidableEq, Repr

/-- What is going to go wrong, in order: one item for each operation on names, one for each
attempt to write, one for each time a file is synced. Past the end everything goes well. -/
structure Mishaps where
  names : List (Option SystemCause) := []
  writes : List Attempt := []
  syncs : List (Option SystemCause) := []
  deriving DecidableEq, Repr

end Disk

structure Disk where
  entries : List (Disk.Place × Disk.Entry)
  /-- The contents of files, by their numbers. -/
  contents : List Text.Octets := []
  mishaps : Disk.Mishaps := {}
  deriving DecidableEq, Repr

namespace Disk

/-- A disk with its devices and one directory. -/
def fresh (home : Name) : Disk where
  entries :=
    [(["dev".toList], .directory), (["dev".toList, "full".toList], .device .full),
     (["dev".toList, "null".toList], .device .null), ([home], .directory)]

/-- What stands at a place; the top is a directory. -/
def entry? (d : Disk) (p : Place) : Option Entry :=
  if p.isEmpty then some .directory else d.entries.lookup p

def put (d : Disk) (p : Place) (e : Entry) : Disk :=
  { d with entries := d.entries.filter (fun q => q.1 != p) ++ [(p, e)] }

def erase (d : Disk) (p : Place) : Disk :=
  { d with entries := d.entries.filter fun q => q.1 != p }

/-- The entries right below a place. -/
def children (d : Disk) (p : Place) : List (Name × Entry) :=
  d.entries.filterMap fun q =>
    match q.1.getLast? with
    | some n => if q.1.dropLast == p then some (n, q.2) else none
    | none => none

/-- The contents of a file. -/
def octetsOf (d : Disk) (number : Nat) : Text.Octets := (d.contents[number]?).getD []

def setOctets (d : Disk) (number : Nat) (bytes : Text.Octets) : Disk :=
  { d with contents := d.contents.set number bytes }

/-! ## Finding a place -/

/-- What a path is wanted for. -/
inductive Purpose where
  /-- For what stands there: a link at the end is followed, and a slash behind the last name asks
  for a directory. -/
  | look
  /-- For a file that is made if there is none: a link at the end is followed, and a slash behind
  the last name is refused. -/
  | make
  /-- For the last name itself, whatever stands there. -/
  | name
  deriving DecidableEq, Repr

/-- Where a path leads. -/
inductive Spot where
  /-- A name in a directory, with what stands there, and whether a slash follows the name. -/
  | named (p : Place) (e : Option Entry) (isSlashed : Bool)
  /-- A directory that is not named in the end: the top, or what dots lead to. -/
  | unnamed (p : Place)
  deriving DecidableEq, Repr

/-- The most octets a path may have. -/
def longestPath : Nat := 4095

/-- The most octets a name may have. -/
def longestName : Nat := 255

def isTooLong (n : Name) : Bool := longestName < (Text.octets n).length

/-- How many links are followed before a path is given up. -/
def mostLinks : Nat := 40

/-- Goes down from a place by names, up to a link that is followed. Each name but the last has to be
that of a directory, or of a link that leads to one; so has the last if dots follow it. -/
def walkTo (d : Disk) (purpose : Purpose)
    (follow : Place → List Name → Bool → Except SystemCause Spot) :
    Place → List Name → Bool → Except SystemCause Spot
  | p, [], _ => .ok (.unnamed p)
  | p, n :: rest, isSlashed =>
    if n = ['.'] then walkTo d purpose follow p rest isSlashed
    else if n = ['.', '.'] then walkTo d purpose follow p.dropLast rest isSlashed
    else if rest.isEmpty && purpose == .name then
      .ok (.named (p ++ [n]) (d.entry? (p ++ [n])) isSlashed)
    else if rest.isEmpty && isSlashed && purpose == .make then .error .isADirectory
    else if isTooLong n then .error .nameTooLong
    else match d.entry? (p ++ [n]) with
      | none => if rest.isEmpty then .ok (.named (p ++ [n]) none isSlashed) else .error .notFound
      | some .directory =>
        if rest.isEmpty then .ok (.named (p ++ [n]) (some .directory) isSlashed)
        else walkTo d purpose follow (p ++ [n]) rest isSlashed
      | some (.link target) =>
        follow (if target.isAbsolute then [] else p) (target.names ++ rest)
          (isSlashed || (rest.isEmpty && target.isSlashed))
      | some e =>
        if rest.isEmpty && !isSlashed then .ok (.named (p ++ [n]) (some e) isSlashed)
        else .error .notADirectory

/-- Goes down from a place by names, and follows that many links at most. -/
def walk (d : Disk) (purpose : Purpose) : Nat → Place → List Name → Bool → Except SystemCause Spot
  | 0 => walkTo d purpose fun _ _ _ => .error .tooManyLinks
  | links + 1 => walkTo d purpose (walk d purpose links)

theorem walk_nil (d : Disk) (purpose : Purpose) (links : Nat) (p : Place) (isSlashed : Bool) :
    d.walk purpose links p [] isSlashed = .ok (.unnamed p) := by
  cases links <;> rfl

theorem walk_cons (d : Disk) (purpose : Purpose) (links : Nat) (p : Place) (n : Name)
    (rest : List Name) (isSlashed : Bool) :
    d.walk purpose links p (n :: rest) isSlashed =
      if n = ['.'] then d.walk purpose links p rest isSlashed
      else if n = ['.', '.'] then d.walk purpose links p.dropLast rest isSlashed
      else if rest.isEmpty && purpose == .name then
        .ok (.named (p ++ [n]) (d.entry? (p ++ [n])) isSlashed)
      else if rest.isEmpty && isSlashed && purpose == .make then .error .isADirectory
      else if isTooLong n then .error .nameTooLong
      else match d.entry? (p ++ [n]) with
        | none => if rest.isEmpty then .ok (.named (p ++ [n]) none isSlashed) else .error .notFound
        | some .directory =>
          if rest.isEmpty then .ok (.named (p ++ [n]) (some .directory) isSlashed)
          else d.walk purpose links (p ++ [n]) rest isSlashed
        | some (.link target) =>
          match links with
          | 0 => .error .tooManyLinks
          | links + 1 =>
            d.walk purpose links (if target.isAbsolute then [] else p) (target.names ++ rest)
              (isSlashed || (rest.isEmpty && target.isSlashed))
        | some e =>
          if rest.isEmpty && !isSlashed then .ok (.named (p ++ [n]) (some e) isSlashed)
          else .error .notADirectory := by
  cases links <;> rfl

/-- Why a path with a null character is refused. -/
def nullInPath : Cause := .text "file name contained an unexpected NUL byte"

/-- Why a text cannot be a path at all. -/
def pathFault? (p : Path) : Option Cause :=
  if p.chars.contains '\x00' then some nullInPath
  else if p.chars.isEmpty then some (.system .notFound)
  else if longestPath < (Text.octets p.chars).length then some (.system .nameTooLong)
  else none

/-- Where a path leads from the top. -/
def find (d : Disk) (purpose : Purpose) (p : Path) : Except Cause Spot :=
  match pathFault? p with
  | some c => .error c
  | none =>
    match d.walk purpose mostLinks [] p.names p.isSlashed with
    | .ok s => .ok s
    | .error c => .error (.system c)

/-! ## Looking -/

/-- What stands where a path leads, links followed. -/
def look? (d : Disk) (p : Path) : Except Cause (Place × Entry) :=
  match d.find .look p with
  | .ok (.named place (some e) _) => .ok (place, e)
  | .ok (.named _ none _) => .error (.system .notFound)
  | .ok (.unnamed place) => .ok (place, .directory)
  | .error c => .error c

/-- Something stands where a path leads. -/
def hasEntry (d : Disk) (p : Path) : Bool :=
  match d.look? p with
  | .ok _ => true
  | .error _ => false

/-- A directory stands where a path leads. -/
def hasDirectory (d : Disk) (p : Path) : Bool :=
  match d.look? p with
  | .ok (_, e) => e == .directory
  | .error _ => false

/-- The octets of the file a path leads to. -/
def read? (d : Disk) (p : Path) : Except Cause Text.Octets :=
  match d.look? p with
  | .ok (_, .file n) => .ok (d.octetsOf n)
  | .ok (_, .device _) => .ok []
  | .ok _ => .error (.system .isADirectory)
  | .error c => .error c

/-- The size of the file a path leads to, 0 where there is none. -/
def fileSize (d : Disk) (p : Path) : Nat :=
  match d.look? p with
  | .ok (_, .file n) => (d.octetsOf n).length
  | _ => 0

end Disk

end Logworks
