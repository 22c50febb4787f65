import Logworks.Regex.Expression
import Logworks.Regex.Octets
import Std.Data.HashMap

/-!
# The room of an expression

Expressions are run as machines that read octets, and an expression whose machines would grow too
large is refused. Two machines are drawn for each: one that reads forward and one that reads
backward; groups are states of the first one only. A machine is a list of states. A state takes
thirty-two octets of room, eight more for each of its transitions where it has a list of them, and
four more for each of its choices where it goes on without reading. This file fixes

* `Plan` -- the states of a machine in the order they are drawn, repetitions written out;
* `Ledger` -- how many states there are so far, and their room;
* `Expr.fits` -- **whether both machines stay within the room an expression may take**.

A set of characters outside ASCII needs a small machine of its own. Forward, states that go on in
the same way are drawn once; backward, those that were reached in the same way. What is drawn
already is looked up in a table with a fixed number of places, each of which keeps the last state
put there, so that a state may be drawn again after all.
-/

namespace Logworks.Regex

open Logworks.Unicode

/-! ## The ledger -/

/-- The states drawn so far, and the room their transitions and choices take. -/
structure Ledger where
  states : Nat := 0
  extra : Nat := 0
  deriving DecidableEq, Repr

/-- The room of a state without its transitions. -/
def stateRoom : Nat := 32

/-- The greatest room a machine may take. -/
def roomLimit : Nat := 10 * 1024 * 1024

namespace Ledger

def room (l : Ledger) : Nat := stateRoom * l.states + l.extra

def add (l : Ledger) (states extra : Nat) : Ledger := ⟨l.states + states, l.extra + extra⟩

/-- A ledger within the limit. -/
def check (l : Ledger) : Option Ledger := if l.room ≤ roomLimit then some l else none

end Ledger

/-! ## Sets outside ASCII -/

/-- A transition: the octets it takes and the state it leads to. -/
structure Transition where
  octets : OctetRange
  next : Nat
  deriving DecidableEq, Repr

/-- Mixes a number into a hash. -/
def mix (h : UInt64) (n : Nat) : UInt64 := (h ^^^ n.toUInt64) * 1099511628211

def mixStart : UInt64 := 14695981039346656037

/-- States that can be looked up by what they were drawn for: a place in the table keeps the last
of those that fall on it. -/
structure Drawn (α : Type) where
  places : Std.HashMap UInt64 (α × Nat) := {}
  ledger : Ledger

namespace Drawn

variable {α : Type} [DecidableEq α]

/-- The state for something, drawn if its place does not hold it; `extra` is the room of its
transitions. -/
def state (d : Drawn α) (place : UInt64) (key : α) (extra : Nat) : Nat × Drawn α :=
  let fresh : Nat × Drawn α :=
    (d.ledger.states, ⟨d.places.insert place (key, d.ledger.states), d.ledger.add 1 extra⟩)
  match d.places[place]? with
  | some (k, n) => if k = key then (n, d) else fresh
  | none => fresh

end Drawn

/-- A state that is not drawn yet: its transitions, and the octets of one whose goal is open. -/
structure Open where
  done : Array Transition := #[]
  last : Option OctetRange := none

namespace Open

/-- The transitions once the goal of the open one is known. -/
def close (o : Open) (next : Nat) : Array Transition :=
  match o.last with
  | some r => o.done.push ⟨r, next⟩
  | none => o.done

end Open

/-- The places of the table for the way forward. -/
def forwardPlaces : UInt64 := 10000

def forwardPlace (ts : Array Transition) : UInt64 :=
  ts.foldl (fun h t => mix (mix (mix h t.octets.1.toNat) t.octets.2.toNat) t.next) mixStart %
    forwardPlaces

/-- The state with some transitions. -/
def drawForward (d : Drawn (Array Transition)) (ts : Array Transition) :
    Nat × Drawn (Array Transition) :=
  d.state (forwardPlace ts) ts (8 * ts.size)

/-- The state open ones lead to, each the goal of the one before it; the last leads to `goal`. -/
def closeAll (goal : Nat) : Drawn (Array Transition) → List Open → Nat × Drawn (Array Transition)
  | d, [] => (goal, d)
  | d, o :: below =>
    let (next, d) := closeAll goal d below
    drawForward d (o.close next)

/-- Adds a sequence to the open states: as long as it runs along them they stay open, and the
others below are drawn. -/
def addForward (goal : Nat) : Drawn (Array Transition) → List Open → OctetSequence →
    List Open × Drawn (Array Transition)
  | d, o :: below, r :: rs =>
    if o.last = some r then
      let (below, d) := addForward goal d below rs
      (o :: below, d)
    else
      let (next, d) := closeAll goal d below
      (⟨o.close next, some r⟩ :: rs.map fun r => ⟨#[], some r⟩, d)
  | d, os, _ => (os, d)

/-- Draws the machine of a set for the way forward, behind the state all its ways lead to. -/
def forwardSet (seqs : List OctetSequence) (l : Ledger) : Ledger :=
  let goal := l.states
  let (os, d) := seqs.foldl (fun (os, d) s => addForward goal d os s)
    ([({} : Open)], ({ ledger := l.add 1 0 } : Drawn (Array Transition)))
  (closeAll goal d os).2.ledger

/-- The places of the table for the way backward. -/
def backwardPlaces : UInt64 := 1000

def backwardPlace (t : Transition) : UInt64 :=
  mix (mix (mix mixStart t.next) t.octets.1.toNat) t.octets.2.toNat % backwardPlaces

/-- Draws the machine of a set for the way backward: a choice, the state all ways lead to, and a
way for each sequence. -/
def backwardSet (seqs : List OctetSequence) (l : Ledger) : Ledger :=
  let goal := l.states + 1
  (seqs.foldl (fun d s =>
    (s.foldl (fun (next, d) r =>
      let t : Transition := ⟨r, next⟩
      d.state (backwardPlace t) t 0) (goal, d)).2)
    ({ ledger := l.add 2 (4 * seqs.length) } : Drawn Transition)).ledger

/-! ## Words as a tree -/

/-- A tree of words: the octets that may come next, each with what comes below it. Where a word
ends, the octets of words put in before are kept apart from those of later ones. -/
inductive WordTree where
  | leaf
  | next (octet : UInt8) (below : WordTree) (others : WordTree)
  | ended (later : WordTree)
  deriving DecidableEq, Repr

namespace WordTree

/-- Whether a word ends here before some of the others. -/
def hasEnded : WordTree → Bool
  | leaf => false
  | next _ _ others => others.hasEnded
  | ended _ => true

/-- Whether no word goes on from here. -/
def isLast : WordTree → Bool
  | leaf => true
  | next _ _ _ => false
  | ended later => later.isLast

def putEnd : WordTree → WordTree
  | leaf => ended leaf
  | next o below others => next o below others.putEnd
  | ended later => ended later.putEnd

/-- A tree with one more word. -/
def insert (t : WordTree) (word : List UInt8) : WordTree :=
  match word with
  | [] => if t = ended leaf then t else t.putEnd
  | b :: bs =>
    match t with
    | leaf => next b (insert leaf bs) leaf
    | ended later => ended (insert later (b :: bs))
    | next o below others =>
      if o = b && !others.hasEnded then next o (insert below bs) others
      else next o below (insert others (b :: bs))
termination_by (word.length, sizeOf t)

/-- The states for octets of one group, and their room with the choice that leads to them. -/
def groupRoom : Nat → Ledger
  | 0 => ⟨0, 0⟩
  | 1 => ⟨1, 4⟩
  | n => ⟨1, 8 * n + 4⟩

/-- The states below a choice, where `n` octets of the group at hand came before. -/
def room : WordTree → (n : Nat) → Ledger
  | leaf, n => groupRoom n
  | ended later, n =>
    let rest := room later 0
    (groupRoom n).add rest.states (rest.extra + 4)
  | next _ below others, n =>
    let rest := room others (n + 1)
    if below.isLast then rest
    else
      let inner := room below 0
      rest.add (inner.states + 1) inner.extra

end WordTree

/-- The octets of a word. -/
def wordOctets (cs : List Char) : List UInt8 := cs.flatMap String.utf8EncodeChar

/-! ## Plans -/

/-- What is drawn, in order. -/
inductive Plan where
  /-- States whose number and room are known. -/
  | fixed (states extra : Nat)
  | forward (seqs : List OctetSequence)
  | backward (seqs : List OctetSequence)
  | both (a b : Plan)
  | copies (n : Nat) (p : Plan)
  deriving Repr

namespace Plan

def append : Plan → Plan → Plan
  | fixed s x, fixed t y => fixed (s + t) (x + y)
  | p, q => both p q

def ofList (ps : List Plan) : Plan := ps.foldr append (fixed 0 0)

def repeated (n : Nat) : Plan → Plan
  | fixed s x => fixed (n * s) (n * x)
  | p => copies n p

/-- Does a step a number of times, unless it fails before. -/
def iterate (step : Ledger → Option Ledger) : Nat → Ledger → Option Ledger
  | 0, l => some l
  | n + 1, l =>
    match step l with
    | some l => iterate step n l
    | none => none

/-- Draws a plan, unless it takes too much room. -/
def draw : Plan → Ledger → Option Ledger
  | fixed s x, l => (l.add s x).check
  | forward seqs, l => (forwardSet seqs l).check
  | backward seqs, l => (backwardSet seqs l).check
  | both a b, l =>
    match a.draw l with
    | some l => b.draw l
    | none => none
  | copies n p, l => iterate p.draw n l

end Plan

namespace Expr

/-- The words of branches that all are words. -/
def words? (es : List Expr) : Option (List (List Char)) :=
  es.mapM fun e => match e with
    | word cs => some cs
    | _ => none

/-- The plan of a set. -/
def setPlan (backward : Bool) (rs : Ranges) : Plan :=
  if rs.all fun r => r.2 < 128 then .fixed 2 (8 * rs.length)
  else if backward then .backward (octetSequences rs)
  else .forward (octetSequences rs)

/-- The plan of words that share their octets as far as they agree, from the end they are read
from. -/
def wordsPlan (backward : Bool) (ws : List (List Char)) : Plan :=
  let octets := ws.map fun w => if backward then (wordOctets w).reverse else wordOctets w
  let l := (octets.foldl WordTree.insert .leaf).room 0
  .fixed (l.states + 2) l.extra

/-- The plan of a repetition: a choice has two ways to go on. -/
def timesPlan (p : Plan) (least : Nat) (most : Option Nat) (takesSome : Bool) : Plan :=
  match least, most with
  | 0, some 1 => .ofList [.fixed 1 8, p, .fixed 1 0]
  | 0, none => if takesSome then .append (.fixed 1 8) p else .append p (.fixed 3 16)
  | least, none => .append (p.repeated least) (.fixed 1 8)
  | least, some most =>
    let first := if least = 0 then .fixed 1 0 else p.repeated least
    if least = most then first
    else .ofList [first, .fixed 1 0, (Plan.append (.fixed 1 8) p).repeated (most - least)]

/-- The plan of branches: the choice between them is drawn behind the second one. -/
def branchesPlan : List Plan → Plan
  | p :: q :: rest => .ofList ([p, q, .fixed 2 (4 * (rest.length + 2))] ++ rest)
  | ps => .ofList ps

mutual

/-- The plan of an expression. -/
def plan (backward : Bool) : Expr → Plan
  | empty => .fixed 1 0
  | word cs => .fixed (octetCount cs) 0
  | set _ rs => setPlan backward rs
  | look _ => .fixed 1 0
  | times r least most _ =>
    timesPlan (r.plan backward) least most ((r.minLen.getD 0) != 0)
  | group _ r =>
    if backward then r.plan backward else .ofList [.fixed 1 0, r.plan backward, .fixed 1 0]
  | seq a b =>
    if backward then .append (b.plan backward) (a.plan backward)
    else .append (a.plan backward) (b.plan backward)
  | alt a b =>
    match words? (alt a b).branches with
    | some ws => wordsPlan backward ws
    | none => branchesPlan (a.plan backward :: branchPlans backward b)

/-- The plans of the branches of an expression. -/
def branchPlans (backward : Bool) : Expr → List Plan
  | alt a b => a.plan backward :: branchPlans backward b
  | e => [e.plan backward]

end

/-- The plan of the whole machine: unless every match is tied to the end it is read from, it skips
any octets first; forward, the whole match is a group. -/
def machinePlan (backward : Bool) (e : Expr) : Plan :=
  let tied := if backward then e.atFinish else e.atStart
  let skip : Plan := if tied then .fixed 1 0 else .fixed 3 16
  let inner := if backward then e.plan true else .ofList [.fixed 1 0, e.plan false, .fixed 1 0]
  .ofList [skip, inner, .fixed 1 0]

/-- Whether both machines stay within the room an expression may take. -/
def fits (e : Expr) : Bool :=
  ((e.machinePlan false).draw {}).isSome && ((e.machinePlan true).draw {}).isSome

end Expr

end Logworks.Regex
