/-!
# Numbered things

Things kept under numbers. A number is given out once, also after its thing was taken away.
-/

namespace Logworks.Session

structure Numbered (α : Type) where
  places : List (Option α) := []

namespace Numbered

variable {α : Type}

def get? (s : Numbered α) (n : Nat) : Option α := (s.places[n]?).join

/-- The number of the thing put there next. -/
def next (s : Numbered α) : Nat := s.places.length

def add (s : Numbered α) (a : α) : Numbered α := ⟨s.places ++ [some a]⟩

def set (s : Numbered α) (n : Nat) (a : α) : Numbered α := ⟨s.places.set n (some a)⟩

def remove (s : Numbered α) (n : Nat) : Numbered α := ⟨s.places.set n none⟩

/-- The numbers under which there is something. -/
def numbers (s : Numbered α) : List Nat :=
  (List.range s.places.length).filter fun n => (s.get? n).isSome

theorem get?_add (s : Numbered α) (a : α) : (s.add a).get? s.next = some a := by
  simp [get?, add, next]

end Numbered

/-- Names with the numbers they stand for. -/
abbrev Names := List (String × Nat)

namespace Names

def assign (ns : Names) (name : String) (n : Nat) : Names :=
  ns.filter (fun e => e.1 != name) ++ [(name, n)]

def drop (ns : Names) (name : String) : Names := ns.filter fun e => e.1 != name

/-- The names in ascending order. -/
def inOrder (ns : Names) : List String :=
  (ns.map Prod.fst).mergeSort fun a b => !decide (b < a)

end Names

end Logworks.Session
