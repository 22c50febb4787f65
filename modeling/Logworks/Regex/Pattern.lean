import Logworks.Regex.Expression

/-!
# What expressions match

A text is matched character by character by a machine: a list of states, of which some take a
character and the others go on without one. Repetitions are written out, so a state needs no
counter, and how many states are open is bounded by the machine alone. Whether some part of a text
matches is decided in one pass: all open states go on together, and a match may start at every
position. This file fixes

* `Node`, `Node.ofExpr` -- an expression whose sets are numbered;
* `State`, `Node.emit` -- **the states of an expression in front of those that follow it**;
* `Regex.close` -- the states that can be reached from open ones without taking a character;
* `Regex.isMatch` -- whether some part of a text matches.
-/

namespace Logworks.Regex

open Logworks.Unicode

/-! ## Numbered sets -/

/-- An expression whose sets are given by their number in a table. -/
inductive Node where
  | empty
  | word (cs : List Char)
  | set (index : Nat)
  | look (l : Look)
  | cat (a b : Node)
  | alt (a b : Node)
  /-- From `least` to `most` times, or without a limit. -/
  | times (r : Node) (least : Nat) (most : Option Nat)
  deriving DecidableEq, Repr

/-- A state of a machine; the numbers are those of states. -/
inductive State where
  /-- The expression has matched. -/
  | done
  | char (c : Char) (next : Nat)
  | set (index : Nat) (next : Nat)
  | look (l : Look) (next : Nat)
  | choice (a b : Nat)
  deriving DecidableEq, Repr

namespace Node

/-- The number of a set in a table, which may have to be put there. -/
def number (sets : Array Ranges) (rs : Ranges) : Node × Array Ranges :=
  match sets.findIdx? (· == rs) with
  | some i => (set i, sets)
  | none => (set sets.size, sets.push rs)

/-- An expression over the sets of a table, with those it adds. -/
def ofExpr (sets : Array Ranges) : Expr → Node × Array Ranges
  | .empty => (empty, sets)
  | .word cs => (word cs, sets)
  | .set _ rs => number sets rs
  | .look l => (look l, sets)
  | .times r least most _ =>
    let (n, sets) := ofExpr sets r
    (times n least most, sets)
  | .group _ r => ofExpr sets r
  | .seq a b =>
    let (m, sets) := ofExpr sets a
    let (n, sets) := ofExpr sets b
    (cat m n, sets)
  | .alt a b =>
    let (m, sets) := ofExpr sets a
    let (n, sets) := ofExpr sets b
    (alt m n, sets)

/-! ## States -/

/-- States put in front of the state with a number: the number of the first of them, and all
states with them. -/
abbrev Emitter := Nat → Array State → Nat × Array State

def emitState (s : Nat → State) : Emitter := fun next m => (m.size, m.push (s next))

/-- The same states, a number of times one after the other. -/
def emitCopies (f : Emitter) : Nat → Emitter
  | 0, next, m => (next, m)
  | n + 1, next, m =>
    let (start, m) := emitCopies f n next m
    f start m

/-- The same states up to a number of times; before each time the rest can be left out. -/
def emitUpTo (f : Emitter) : Nat → Emitter
  | 0, next, m => (next, m)
  | n + 1, next, m =>
    let (start, m) := emitUpTo f n next m
    let (body, m) := f start m
    (m.size, m.push (.choice body next))

/-- The same states any number of times: a choice that the last of them comes back to. -/
def emitLoop (f : Emitter) : Emitter := fun next m =>
  let turn := m.size
  let (body, m) := f turn (m.push (.choice next next))
  (turn, m.setIfInBounds turn (.choice body next))

/-- The states of an expression in front of a state. -/
def emit : Node → Emitter
  | empty, next, m => (next, m)
  | word cs, next, m => cs.foldr (fun c (next, m) => emitState (.char c) next m) (next, m)
  | set i, next, m => emitState (.set i) next m
  | look l, next, m => emitState (.look l) next m
  | cat a b, next, m =>
    let (start, m) := b.emit next m
    a.emit start m
  | alt a b, next, m =>
    let (i, m) := a.emit next m
    let (j, m) := b.emit next m
    (m.size, m.push (.choice i j))
  | times r least most, next, m =>
    let (start, m) :=
      match most with
      | none => emitLoop r.emit next m
      | some most => emitUpTo r.emit (most - least) next m
    emitCopies r.emit least start m

end Node

end Regex

/-- The machine of an expression: its sets, its states and the number of the first one. -/
structure Regex where
  sets : Array Unicode.Lookup
  states : Array Regex.State
  start : Nat

namespace Regex

def ofExpr (e : Expr) : Regex :=
  let (root, sets) := Node.ofExpr #[] e
  let (start, states) := root.emit 0 #[.done]
  ⟨sets.map Unicode.Lookup.ofRanges, states, start⟩

/-- The state behind one that takes a character. -/
def after (r : Regex) (c : Char) (i : Nat) : Option Nat :=
  match r.states[i]? with
  | some (.char d next) => if c = d then some next else none
  | some (.set n next) =>
    match r.sets[n]? with
    | some s => if s.contains c.toNat then some next else none
    | none => none
  | _ => none

/-- The states that take a character among those reached from open ones at a position, or none
where the expression has matched. A state is visited once: `marks` holds for each the turn of its
last visit. Every visit opens two states at most, which bounds their number. -/
def close (r : Regex) (p : Position) (turn : Nat) : (fuel : Nat) → List Nat → Array Nat →
    List Nat → Option (Array Nat × List Nat)
  | 0, _, marks, takers => some (marks, takers)
  | _ + 1, [], marks, takers => some (marks, takers)
  | fuel + 1, i :: todo, marks, takers =>
    if marks[i]? = some turn then close r p turn fuel todo marks takers
    else
      let marks := marks.setIfInBounds i turn
      match r.states[i]? with
      | some .done => none
      | some (.look l next) =>
        close r p turn fuel (if l.holds p then next :: todo else todo) marks takers
      | some (.choice a b) => close r p turn fuel (a :: b :: todo) marks takers
      | some _ => close r p turn fuel todo marks (i :: takers)
      | none => close r p turn fuel todo marks takers

/-- Whether a match ends in the text, from a position on, where some states are open. -/
def search (r : Regex) (turn : Nat) (marks : Array Nat) (opened : List Nat)
    (before : Option Char) : List Char → Bool
  | [] =>
    (r.close ⟨before, none⟩ turn (opened.length + 2 * r.states.size + 2) (r.start :: opened) marks
      []).isNone
  | c :: cs =>
    match r.close ⟨before, some c⟩ turn (opened.length + 2 * r.states.size + 2)
      (r.start :: opened) marks [] with
    | none => true
    | some (marks, takers) => search r (turn + 1) marks (takers.filterMap (r.after c)) (some c) cs

/-- Whether some part of a text matches. -/
def isMatch (r : Regex) (text : String) : Bool :=
  r.search 1 (.replicate r.states.size 0) [] none text.toList

end Regex

end Logworks
