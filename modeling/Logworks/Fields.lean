/-!
# Fields

Named texts: the fields of a record, the fields a logger puts into every record, the fields in
force around a call. A name has one value; where the order shows, it is that of first insertion.
This file fixes `Fields` with `get?` as its view, and one law per operation.
-/

namespace Logworks

/-- Names with their values. -/
structure Fields where
  pairs : List (String × String) := []
  deriving DecidableEq, Repr, Inhabited

namespace Fields

def empty : Fields := {}

def get? (f : Fields) (key : String) : Option String := f.pairs.lookup key

def contains (f : Fields) (key : String) : Bool := (f.get? key).isSome

def size (f : Fields) : Nat := f.pairs.length

def isEmpty (f : Fields) : Bool := f.pairs.isEmpty

/-- Gives a name a value, in place of the one it had. -/
def insertPair (key value : String) : List (String × String) → List (String × String)
  | [] => [(key, value)]
  | (k, v) :: ps => if k == key then (k, value) :: ps else (k, v) :: insertPair key value ps

def insert (f : Fields) (key value : String) : Fields := ⟨insertPair key value f.pairs⟩

def erase (f : Fields) (key : String) : Fields := ⟨f.pairs.filter fun p => p.1 != key⟩

def ofPairs (ps : List (String × String)) : Fields :=
  ps.foldl (fun f p => f.insert p.1 p.2) {}

/-- `f`, and what `below` has under names `f` has not. -/
def above (f below : Fields) : Fields :=
  ⟨f.pairs ++ below.pairs.filter fun p => !f.contains p.1⟩

/-! ## What the operations do to the view -/

theorem lookup_insertPair (key value other : String) (ps : List (String × String)) :
    (insertPair key value ps).lookup other = if other = key then some value else ps.lookup other := by
  induction ps with
  | nil =>
    by_cases h : other = key
    · simp [insertPair, h]
    · simp [insertPair, List.lookup_cons, h, beq_false_of_ne h]
  | cons p ps ih =>
    obtain ⟨k, v⟩ := p
    by_cases hk : k = key
    · subst hk
      by_cases h : other = k
      · simp [insertPair, h]
      · simp [insertPair, List.lookup_cons, h, beq_false_of_ne h]
    · by_cases h : other = k
      · subst h
        simp [insertPair, hk]
      · simp [insertPair, List.lookup_cons, hk, beq_false_of_ne h, ih]

@[simp] theorem get?_insert (f : Fields) (key value other : String) :
    (f.insert key value).get? other = if other = key then some value else f.get? other :=
  lookup_insertPair key value other f.pairs

theorem lookup_filter (keep : String → Bool) (other : String) (ps : List (String × String)) :
    (ps.filter fun p => keep p.1).lookup other = if keep other then ps.lookup other else none := by
  induction ps with
  | nil => simp
  | cons p ps ih =>
    obtain ⟨k, v⟩ := p
    by_cases h : other = k
    · subst h
      cases hk : keep other <;> simp [hk, ih]
    · cases hk : keep k <;> simp [List.lookup_cons, beq_false_of_ne h, hk, ih]

@[simp] theorem get?_erase (f : Fields) (key other : String) :
    (f.erase key).get? other = if other = key then none else f.get? other := by
  have h := lookup_filter (· != key) other f.pairs
  by_cases heq : other = key <;> simpa [erase, get?, heq] using h

@[simp] theorem get?_above (f below : Fields) (key : String) :
    (f.above below).get? key = (f.get? key).or (below.get? key) := by
  have h := lookup_filter (fun k => !f.contains k) key below.pairs
  rw [get?, above, List.lookup_append, h, contains]
  cases hf : f.get? key with
  | some v => rw [← get?, hf, Option.some_or, Option.some_or]
  | none => rw [← get?, hf, Option.none_or, Option.none_or]; rfl

@[simp] theorem get?_empty (key : String) : empty.get? key = none := rfl

end Fields

end Logworks
