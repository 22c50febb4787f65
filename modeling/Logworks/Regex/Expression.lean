import Logworks.Regex.Look

/-!
# Expressions in their plain form

An expression is brought to a plain form while it is read: characters that follow one another
become a word, branches of one character each become a set, and parts that all branches of an
alternation start with are written once, before it. This file fixes

* `Expr` -- an expression; a sequence and an alternation hang over to the right;
* `Expr.minLen`, `Expr.maxLen` -- the least and the greatest number of octets it matches;
* `Expr.ofSet`, `Expr.concat`, `Expr.alternation`, `Expr.repeated` -- **the only ways to put
  expressions together**, each of which gives the plain form of what its parts stand for;
* `Expr.atStart`, `Expr.atFinish` -- whether every match is tied to the start or end of the text.
-/

namespace Logworks.Regex

open Logworks.Unicode

/-- An expression. -/
inductive Expr where
  | empty
  /-- Characters one after the other, at least one. -/
  | word (cs : List Char)
  /-- One character of a set; `octets` says that it was read without the flag `u`. -/
  | set (octets : Bool) (rs : Ranges)
  | look (l : Look)
  /-- From `least` to `most` times, or without a limit. -/
  | times (r : Expr) (least : Nat) (most : Option Nat) (greedy : Bool)
  | group (index : Nat) (r : Expr)
  | seq (a b : Expr)
  | alt (a b : Expr)
  deriving DecidableEq, Repr

namespace Expr

/-- The expression that matches nothing at all. -/
def never : Expr := .set true []

/-! ## Lengths -/

/-- How many octets a text takes. -/
def octetCount (cs : List Char) : Nat := cs.foldl (fun n c => n + c.utf8Size) 0

/-- The fewest octets a match takes; none where nothing matches. -/
def minLen : Expr → Option Nat
  | empty => some 0
  | word cs => some (octetCount cs)
  | set _ rs => rs.head?.map fun r => (Char.ofNat r.1).utf8Size
  | look _ => some 0
  | times r least _ _ => r.minLen.map (· * least)
  | group _ r => r.minLen
  | seq a b =>
    match a.minLen, b.minLen with
    | some m, some n => some (m + n)
    | _, _ => none
  | alt a b =>
    match a.minLen, b.minLen with
    | some m, some n => some (min m n)
    | _, _ => none

/-- The most octets a match takes; none where there is no limit, or where nothing matches. -/
def maxLen : Expr → Option Nat
  | empty => some 0
  | word cs => some (octetCount cs)
  | set _ rs => rs.getLast?.map fun r => (Char.ofNat r.2).utf8Size
  | look _ => some 0
  | times r _ most _ =>
    match most, r.maxLen with
    | some m, some n => some (n * m)
    | _, _ => none
  | group _ r => r.maxLen
  | seq a b =>
    match a.maxLen, b.maxLen with
    | some m, some n => some (m + n)
    | _, _ => none
  | alt a b =>
    match a.maxLen, b.maxLen with
    | some m, some n => some (max m n)
    | _, _ => none

/-! ## Putting expressions together -/

/-- One character of a set. -/
def ofSet (octets : Bool) : Ranges → Expr
  | [] => never
  | [r] => if r.1 = r.2 then word [Char.ofNat r.1] else set octets [r]
  | rs => set octets rs

/-- The parts of a sequence; any other expression is its own only part. -/
def parts : Expr → List Expr
  | empty => []
  | seq a b => a :: parts b
  | e => [e]

def ofParts : List Expr → Expr
  | [] => empty
  | [e] => e
  | e :: es => seq e (ofParts es)

/-- Parts with words that follow one another made one. -/
def joinWords : List Expr → List Expr
  | [] => []
  | word a :: es =>
    match joinWords es with
    | word b :: rest => word (a ++ b) :: rest
    | rest => word a :: rest
  | e :: es => e :: joinWords es

/-- One expression after another. -/
def concat (es : List Expr) : Expr := ofParts (joinWords (es.flatMap parts))

/-- The branches of an alternation; any other expression is its own only branch. -/
def branches : Expr → List Expr
  | alt a b => a :: branches b
  | e => [e]

def ofBranches : List Expr → Expr
  | [] => never
  | [e] => e
  | e :: es => alt e (ofBranches es)

/-- The characters of branches that are one character each. -/
def characters? : List Expr → Option Ranges
  | [] => some []
  | word [c] :: es => (characters? es).map ((c.toNat, c.toNat) :: ·)
  | _ => none

/-- The ranges of branches that are sets. -/
def sets? : List Expr → Option Ranges
  | [] => some []
  | set _ rs :: es => (sets? es).map (rs ++ ·)
  | _ => none

/-- How many parts two lists have in common at their front. -/
def sharedBy : List Expr → List Expr → Nat
  | a :: as, b :: bs => if a = b then sharedBy as bs + 1 else 0
  | _, _ => 0

/-- How many parts all branches start with. Only branches that are sequences share any. -/
def sharedFront : List Expr → Nat
  | seq a b :: es =>
    es.foldl (fun n e => match e with
      | seq _ _ => min n (sharedBy (seq a b).parts e.parts)
      | _ => 0) (seq a b).parts.length
  | _ => 0

/-- An alternation. Every step to the rest of the branches makes them shorter, so the number of
all parts bounds the steps. -/
def alternationIn : Nat → List Expr → Expr
  | fuel, es =>
    let all := es.flatMap branches
    if all.length < 2 then ofBranches all
    else match characters? all with
      | some rs => ofSet false (.normal rs)
      | none =>
        match sets? all with
        | some rs => ofSet false (.normal rs)
        | none =>
          match fuel with
          | 0 => ofBranches all
          | fuel + 1 =>
            let n := sharedFront all
            if n = 0 then ofBranches all
            else
              let front := (all.head?.map (·.parts.take n)).getD []
              let rest := alternationIn fuel (all.map fun e => concat (e.parts.drop n))
              concat (front ++ [rest])

/-- One of several expressions. -/
def alternation (es : List Expr) : Expr :=
  alternationIn ((es.flatMap branches).foldl (fun n e => n + e.parts.length) 0) es

/-- A repetition. What takes no characters is repeated once at most. -/
def repeated (r : Expr) (least : Nat) (most : Option Nat) (greedy : Bool) : Expr :=
  let (least, most) :=
    if r.maxLen = some 0 then (min least 1, some (min (most.getD 1) 1)) else (least, most)
  if least = 0 ∧ most = some 0 then empty
  else if least = 1 ∧ most = some 1 then r
  else times r least most greedy

/-! ## Ends of the text -/

/-- Whether a match can start at the start of the text only. -/
def atStart : Expr → Bool
  | look .start => true
  | times r least _ _ => least != 0 && r.atStart
  | group _ r => r.atStart
  | seq a b => a.atStart || (a.maxLen == some 0 && b.atStart)
  | alt a b => a.atStart && b.atStart
  | _ => false

/-- Whether a match can end at the end of the text only. -/
def atFinish : Expr → Bool
  | look .finish => true
  | times r least _ _ => least != 0 && r.atFinish
  | group _ r => r.atFinish
  | seq a b => b.atFinish || (b.maxLen == some 0 && a.atFinish)
  | alt a b => a.atFinish && b.atFinish
  | _ => false

end Expr

end Logworks.Regex
