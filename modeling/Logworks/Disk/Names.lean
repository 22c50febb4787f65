import Logworks.Disk.Basic

/-!
# Operations on names

Removing, renaming and making entries. An operation that fails leaves the disk as it was, apart
from the mishap it has used up. Links are not followed at the end of a path, so a link itself is
removed or renamed. This file fixes

* `Work` -- something done to a disk that may fail;
* `removeFile`, `rename` -- a rename takes the place of a file, or of an empty directory by a
  directory;
* `replace` -- a rename that, when it is refused, first removes what stands in the way;
* `makeDirectory`, `makeDirectories`, `makeLink`, `removeTree`.
-/

namespace Logworks.Disk

/-- Something done to a disk that may fail. -/
abbrev Work (α : Type) := ExceptT Cause (StateM Disk) α

/-- Something that is done only where the disk shows something. -/
theorem Work.run_if (shows : Disk → Bool) (w : Work Unit) (d : Disk) :
    (do if shows (← get) then w : Work Unit).run d =
      if shows d then w.run d else (.ok (), d) := by
  show (if shows d = true then w else pure () : Work Unit).run d = _
  split <;> rfl

/-- Uses up the next mishap of an operation on names. -/
def mishap : Work Unit := fun d =>
  match d.mishaps.names with
  | [] => (.ok (), d)
  | none :: rest => (.ok (), { d with mishaps := { d.mishaps with names := rest } })
  | some c :: rest =>
    (.error (.system c), { d with mishaps := { d.mishaps with names := rest } })

/-- A change of the disk that is worked out from it. -/
def change {α : Type} (f : Disk → Except Cause (α × Disk)) : Work α := fun d =>
  match f d with
  | .ok (a, d) => (.ok a, d)
  | .error c => (.error c, d)

/-- The last name on the way to a place is too long. -/
def hasLongName (p : Place) : Bool := p.getLast?.any isTooLong

/-! ## Removing -/

/-- The disk without a file, link or device. -/
def withoutFile (p : Path) (d : Disk) : Except Cause (Unit × Disk) :=
  match d.find .name p with
  | .error c => .error c
  | .ok (.unnamed _) => .error (.system .isADirectory)
  | .ok (.named place e isSlashed) =>
    if hasLongName place then .error (.system .nameTooLong)
    else match e with
      | none => .error (.system .notFound)
      | some .directory => .error (.system .isADirectory)
      | some _ => if isSlashed then .error (.system .notADirectory) else .ok ((), d.erase place)

def removeFile (p : Path) : Work Unit := do
  mishap
  change (withoutFile p)

/-- Removes a file; one that is not there needs no removing. -/
def removeIfThere (p : Path) : Work Unit := fun d =>
  match (removeFile p).run d with
  | (.error (.system .notFound), d) => (.ok (), d)
  | r => r

/-! ## Renaming -/

/-- The place below `target` of an entry below `source`. -/
def rebase (source target p : Place) : Place := target ++ p.drop source.length

/-- The disk with an entry, and all below it, at another place. -/
def moved (source target : Place) (d : Disk) : Disk :=
  let stays := d.entries.filter fun q => !source.isPrefixOf q.1 && q.1 != target
  let goes := d.entries.filter fun q => source.isPrefixOf q.1
  { d with entries := stays ++ goes.map fun q => (rebase source target q.1, q.2) }

/-- Whether an entry may go to a place where something stands. -/
def mayReplace (d : Disk) (source : Entry) (target : Place) : Entry → Except SystemCause Unit
  | .directory =>
    if source != .directory then .error .isADirectory
    else if (d.children target).isEmpty then .ok ()
    else .error .notEmpty
  | _ => if source = .directory then .error .notADirectory else .ok ()

/-- The disk with an entry moved from one place to another. A slash behind either name asks for a
directory. Nothing goes below itself, and what has the source below it is not empty. -/
def transferred (d : Disk) (p : Place) (e : Entry) (q : Place) (f : Option Entry)
    (isSlashed : Bool) : Except SystemCause Disk :=
  if hasLongName q then .error .nameTooLong
  else if e != .directory && isSlashed then .error .notADirectory
  else if p.isPrefixOf q.dropLast then .error .invalidArgument
  else if f.isSome && q.isPrefixOf p.dropLast then .error .notEmpty
  else if p = q then .ok d
  else match f with
    | none => .ok (d.moved p q)
    | some f => (d.mayReplace e q f).map fun _ => d.moved p q

/-- The disk after a rename. -/
def renamed (source target : Path) (d : Disk) : Except Cause (Unit × Disk) :=
  match d.find .name source, d.find .name target with
  | .error c, _ | .ok _, .error c => .error c
  | .ok (.named p e isSlashed), .ok (.named q f isTargetSlashed) =>
    if hasLongName p then .error (.system .nameTooLong)
    else match e with
      | none => .error (.system .notFound)
      | some e =>
        match d.transferred p e q f (isSlashed || isTargetSlashed) with
        | .ok d => .ok ((), d)
        | .error c => .error (.system c)
  | .ok _, .ok _ => .error (.system .busy)

def rename (source target : Path) : Work Unit := do
  mishap
  change (renamed source target)

/-- A rename; where it is refused, what stands at the target is removed first. -/
def replace (source target : Path) : Work Unit := fun d =>
  match (rename source target).run d with
  | (.ok (), d) => (.ok (), d)
  | (.error _, d) =>
    (do removeIfThere target
        rename source target : Work Unit).run d

/-! ## Making -/

/-- The disk with a new entry. A slash behind the name asks for a directory. -/
def withEntry (p : Path) (e : Entry) (d : Disk) : Except Cause (Unit × Disk) :=
  match d.find .name p with
  | .error c => .error c
  | .ok (.unnamed _) | .ok (.named _ (some _) _) => .error (.system .alreadyThere)
  | .ok (.named place none isSlashed) =>
    if hasLongName place then .error (.system .nameTooLong)
    else if isSlashed && e != .directory then .error (.system .notFound)
    else .ok ((), d.put place e)

def makeDirectory (p : Path) : Work Unit := change (withEntry p .directory)

/-- Makes a directory. One that is there needs no making. -/
def makeIfMissing (p : Path) : Work Unit := fun d =>
  match (makeDirectory p).run d with
  | (.error (.system .alreadyThere), d) =>
    (if d.hasDirectory p then .ok () else .error (.system .alreadyThere), d)
  | r => r

/-- Makes a directory, and those above it where there is nothing for it to be in. The number bounds
how many are above it. -/
def makeDirectoriesWithin : Nat → Path → Work Unit
  | 0, _ => pure ()
  | k + 1, p => fun d =>
    match p.above? with
    | none => (.ok (), d)
    | some above =>
      match (makeIfMissing p).run d with
      | (.error (.system .notFound), d) =>
        (do makeDirectoriesWithin k above
            makeIfMissing p : Work Unit).run d
      | r => r

/-- Makes a directory and those above it. -/
def makeDirectories (p : Path) : Work Unit := makeDirectoriesWithin (p.parts.length + 1) p

/-- Makes a link that leads to a path. -/
def makeLink (p target : Path) : Work Unit :=
  change fun d =>
    if p.chars.contains '\x00' then .error nullInPath
    else match pathFault? target with
      | some c => .error c
      | none => withEntry p (.link target) d

/-- The disk without what lies below a place. -/
def emptiedBelow (d : Disk) (place : Place) : Disk :=
  { d with entries := d.entries.filter fun q => !place.isPrefixOf q.1 || q.1 == place }

/-- Removes an entry and all below it; whether it is gone. A directory that was reached by way of a
link or of dots is emptied, and stays. -/
def removeTree (p : Path) (d : Disk) : Bool × Disk :=
  match d.find .name p with
  | .ok (.named place (some e) isSlashed) =>
    if e = .directory || !isSlashed then (true, (d.emptiedBelow place).erase place)
    else match d.look? p with
      | .ok (there, .directory) => (false, d.emptiedBelow there)
      | _ => (false, d)
  | .ok (.unnamed place) => (false, d.emptiedBelow place)
  | _ => (false, d)

end Logworks.Disk
