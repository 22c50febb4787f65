import Logworks.Fields

/-!
# Fields in force around a call

Fields may be set for all calls that follow, or for as long as a guard lives: the guard keeps the
value it displaced and puts it back when it is dropped. Guards are numbered in the order they were
made and may be dropped in any order.
-/

namespace Logworks

/-- A guard that lives: its name, and the value the name had before. -/
structure Guard where
  key : String
  previous : Option String
  deriving DecidableEq, Repr

/-- The fields in force, and the guards made so far; one that was dropped leaves a gap. -/
structure Ambient where
  fields : Fields := {}
  guards : List (Option Guard) := []
  deriving DecidableEq, Repr, Inhabited

namespace Ambient

def set (a : Ambient) (key value : String) : Ambient :=
  { a with fields := a.fields.insert key value }

def remove (a : Ambient) (key : String) : Ambient :=
  { a with fields := a.fields.erase key }

def clear (a : Ambient) : Ambient :=
  { a with fields := {} }

/-- Sets a field for the life of a new guard, the last one made. -/
def push (a : Ambient) (key value : String) : Ambient :=
  { fields := a.fields.insert key value
    guards := a.guards ++ [some ⟨key, a.fields.get? key⟩] }

/-- What a guard leaves behind: the value it displaced, or none. -/
def restore (f : Fields) (g : Guard) : Fields :=
  match g.previous with
  | some value => f.insert g.key value
  | none => f.erase g.key

/-- Drops a guard; one that is gone, or never was, changes nothing. -/
def drop (a : Ambient) (index : Nat) : Ambient :=
  match a.guards[index]? with
  | some (some g) => { fields := restore a.fields g, guards := a.guards.set index none }
  | _ => a

/-- Whether a guard lives. -/
def lives (a : Ambient) (index : Nat) : Bool :=
  match a.guards[index]? with
  | some (some _) => true
  | _ => false

/-- The number of the last guard that was made, whether it lives or not. -/
def lastMade? (a : Ambient) : Option Nat :=
  if a.guards.isEmpty then none else some (a.guards.length - 1)

end Ambient

end Logworks
