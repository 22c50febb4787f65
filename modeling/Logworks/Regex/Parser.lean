import Logworks.Regex.Pattern
import Logworks.Regex.Room
import Logworks.Regex.Property
import Logworks.Unicode.FoldTable
import Logworks.Unicode.LaterTable
import Logworks.Text.Blank

/-!
# Reading regular expressions

The text of an expression, read from left to right. Everything that has no meaning is refused;
why does not matter to those who ask, so a refusal is `none`. Without the flag `u` an expression
must not be able to match half a character, so sets that would are refused. This file fixes

* `Flags` -- the flags in force, set by `(?i)` for the rest of a group or by `(?i:…)` inside one;
* the readers of escapes, sets and repetitions;
* `Regex.parse?` -- a whole expression. One whose parts lie too deep in one another is refused, and
  one whose machines would take too much room.

Every reader takes the characters left and gives those it leaves. The numbers that bound the
recursion count characters, and each call takes one.
-/

namespace Logworks.Regex

open Logworks.Unicode Logworks.Text

structure Flags where
  ignoreCase : Bool := false
  multiLine : Bool := false
  dotAll : Bool := false
  swapGreed : Bool := false
  unicode : Bool := true
  crlf : Bool := false
  spaced : Bool := false
  deriving DecidableEq, Repr

/-- What is read so far besides the expression: how many groups there are, and their names. -/
structure Found where
  groups : Nat := 0
  names : List (List Char) := []

/-! ## Character sets -/

/-- Pairs of a character and its class, ascending by classes, gathered into classes with all
their members. -/
def gatherClasses : List (Nat × Nat) → List (List Nat)
  | [] => []
  | (n, head) :: ps =>
    match gatherClasses ps with
    | (h :: ms) :: gs => if h = head then (h :: n :: ms) :: gs else [head, n] :: (h :: ms) :: gs
    | gs => [head, n] :: gs

/-- The classes of characters that differ only in case. -/
def foldClasses : List (List Nat) :=
  gatherClasses (foldPairs.mergeSort fun a b => a.2 ≤ b.2)

/-- A set with every character that differs from one of it only in case. -/
def foldCase (unicode : Bool) (rs : Ranges) : Ranges :=
  if unicode then
    let t := Lookup.ofRanges (.normal rs)
    let more := (foldClasses.filter fun ms => ms.any t.contains).flatten
    .normal (rs ++ more.map fun n => (n, n))
  else
    let shift (lo hi by_ : Nat) (up : Bool) : Ranges :=
      rs.filterMap fun r =>
        let a := max r.1 lo
        let b := min r.2 hi
        if a ≤ b then some (if up then (a + by_, b + by_) else (a - by_, b - by_)) else none
    .normal (rs ++ shift 0x41 0x5A 32 true ++ shift 0x61 0x7A 32 false)

def isAsciiSet (rs : Ranges) : Bool := rs.all fun r => r.2 < 128

/-- A set after the flags: case first, then negation, and without `u` nothing above ASCII. -/
def finishSet (f : Flags) (negated : Bool) (rs : Ranges) : Option Ranges :=
  let folded := if f.ignoreCase then foldCase f.unicode rs else .normal rs
  let whole := if negated then folded.negation else folded
  if f.unicode || isAsciiSet whole then some whole else none

def asciiDigit : Ranges := [(48, 57)]
def asciiSpace : Ranges := [(9, 13), (32, 32)]
def asciiWord : Ranges := [(48, 57), (65, 90), (95, 95), (97, 122)]

/-- The sets `\d`, `\s`, `\w`, and those of the capital letters, their complements. -/
def perlSet (f : Flags) (c : Char) : Option Ranges :=
  let base :=
    match c.toLower, f.unicode with
    | 'd', true => category "Nd"
    | 'd', false => asciiDigit
    | 's', true => property "White_Space"
    | 's', false => asciiSpace
    | _, true => wordRanges
    | _, false => asciiWord
  let rs := if c.isUpper then Ranges.negation base else base
  if f.unicode || isAsciiSet rs then some rs else none

/-- The sets of `[[:name:]]`. -/
def asciiClasses : List (String × Ranges) :=
  [("alnum", [(48, 57), (65, 90), (97, 122)]), ("alpha", [(65, 90), (97, 122)]),
   ("ascii", [(0, 127)]), ("blank", [(9, 9), (32, 32)]), ("cntrl", [(0, 31), (127, 127)]),
   ("digit", asciiDigit), ("graph", [(33, 126)]), ("lower", [(97, 122)]),
   ("print", [(32, 126)]), ("punct", [(33, 47), (58, 64), (91, 96), (123, 126)]),
   ("space", asciiSpace), ("upper", [(65, 90)]), ("word", asciiWord),
   ("xdigit", [(48, 57), (65, 70), (97, 102)])]

/-! ## Blanks between parts -/

/-- What is left behind blanks and comments, where the flag `x` lets them be. -/
def skipBlanks (spaced : Bool) : (inComment : Bool) → List Char → List Char
  | _, [] => []
  | inComment, c :: cs =>
    if !spaced then c :: cs
    else if inComment then skipBlanks spaced (c != '\n') cs
    else if isBlank c then skipBlanks spaced false cs
    else if c = '#' then skipBlanks spaced true cs
    else c :: cs

/-- The character behind blanks and the sign of one comment, but not behind its text; where there
is none, the first character of all. -/
def behindBlanks : (inComment : Bool) → (first : Option Char) → List Char → Option Char
  | _, first, [] => first
  | inComment, first, c :: cs =>
    if isBlank c then behindBlanks inComment first cs
    else if !inComment && c = '#' then behindBlanks true first cs
    else some c

namespace Flags

def skip (f : Flags) (cs : List Char) : List Char := skipBlanks f.spaced false cs

/-- The character a hyphen in a set looks at to see whether it stands between two ends of a range:
the next one, or where the flag `x` lets blanks be, the one behind them. -/
def peek (f : Flags) (cs : List Char) : Option Char :=
  if f.spaced then behindBlanks false cs.head? cs else cs.head?

end Flags

/-! ## Escapes -/

/-- One unit of an expression or of a set. -/
inductive Atom where
  /-- A character; one given by two hexadecimal digits stands for an octet. -/
  | literal (c : Char) (octet : Bool)
  | set (rs : Ranges)
  | look (l : Look)

def isHexDigit (c : Char) : Bool :=
  c.isDigit || ('a' ≤ c && c ≤ 'f') || ('A' ≤ c && c ≤ 'F')

def hexValue (cs : List Char) : Nat :=
  cs.foldl (fun n c => 16 * n + (if c.isDigit then c.toNat - 48 else c.toLower.toNat - 87)) 0

/-- The character of a number, if it has one. -/
def charOf? (n : Nat) : Option Char :=
  if n < 0xD800 ∨ (0xDFFF < n ∧ n ≤ lastPoint) then some (Char.ofNat n) else none

/-- A number of hexadecimal digits. -/
def hexDigits (f : Flags) : Nat → List Char → List Char → Option (List Char × List Char)
  | 0, read, cs => some (read, cs)
  | n + 1, read, cs =>
    match cs with
    | [] => none
    | c :: cs => if isHexDigit c then hexDigits f n (read ++ [c]) (f.skip cs) else none

/-- Hexadecimal digits up to a closing brace. -/
def hexBraced (f : Flags) : Nat → List Char → List Char → Option (List Char × List Char)
  | 0, _, _ => none
  | fuel + 1, read, cs =>
    match f.skip cs with
    | [] => none
    | '\x7d' :: cs => some (read, f.skip cs)
    | c :: cs => if isHexDigit c then hexBraced f fuel (read ++ [c]) cs else none

def hexEscape (f : Flags) (digits : Nat) (cs : List Char) : Option (Atom × List Char) :=
  match f.skip cs with
  | [] => none
  | '\x7b' :: rest =>
    match hexBraced f (rest.length + 1) [] rest with
    | some ([], _) => none
    | some (ds, rest) =>
      (charOf? (hexValue ((ds.dropWhile (· == '0')).take 9))).map fun c => (.literal c false, rest)
    | none => none
  | cs =>
    match hexDigits f digits [] cs with
    | some (ds, rest) => (charOf? (hexValue ds)).map fun c => (.literal c (digits == 2), rest)
    | none => none

/-- A text split at the first occurrence of another. -/
def splitAt? (mark : List Char) : List Char → Option (List Char × List Char)
  | [] => if mark.isEmpty then some ([], []) else none
  | c :: cs =>
    if mark.isPrefixOf (c :: cs) then some ([], (c :: cs).drop mark.length)
    else (splitAt? mark cs).map fun (a, b) => (c :: a, b)

/-- The set named between the braces of `\p`. -/
def propertySet? (name : List Char) : Option (Ranges × Bool) :=
  match splitAt? ['!', '='] name with
  | some (p, v) => (valuedSet? p v).map (·, true)
  | none =>
    match splitAt? [':'] name with
    | some (p, v) => (valuedSet? p v).map (·, false)
    | none =>
      match splitAt? ['='] name with
      | some (p, v) => (valuedSet? p v).map (·, false)
      | none => (namedSet? name).map (·, false)

/-- The characters up to a closing brace, blanks left out where the flag `x` lets them be. -/
def nameBraced (f : Flags) : Nat → List Char → List Char → Option (List Char × List Char)
  | 0, _, _ => none
  | fuel + 1, read, cs =>
    match f.skip cs with
    | [] => none
    | '\x7d' :: cs => some (read, cs)
    | c :: cs => nameBraced f fuel (read ++ [c]) cs

def propertyEscape (f : Flags) (negated : Bool) (cs : List Char) : Option (Atom × List Char) :=
  let finish (name : List Char) (rest : List Char) : Option (Atom × List Char) :=
    if !f.unicode then none
    else match propertySet? name with
      | none => none
      | some (rs, unequal) => (finishSet f (negated != unequal) rs).map fun rs => (.set rs, rest)
  match f.skip cs with
  | [] => none
  | '\x7b' :: rest =>
    match nameBraced f (rest.length + 1) [] rest with
    | some (name, rest) => finish name rest
    | none => none
  | '\\' :: _ => none
  | c :: rest => finish [c] (f.skip rest)

/-- Characters with a meaning of their own. -/
def isMeta (c : Char) : Bool := "\\.+*?()|[]\x7b\x7d^$#&-~".toList.contains c

/-- The conditions `\b{start}` and so on, from the opening brace. Nothing is read where the braces
hold something else, which may be a count. -/
def namedBoundary (f : Flags) (cs : List Char) : Option (Option Look × List Char) :=
  let isNameChar (c : Char) : Bool := c.isAlpha || c == '-'
  match f.skip cs.tail with
  | [] => none
  | c :: rest =>
    if !isNameChar c then some (none, cs)
    else match nameBraced f (rest.length + 2) [] (c :: rest) with
      | none => none
      | some (name, rest) =>
        match String.ofList name with
        | "start" => some (some (.wordStart f.unicode), rest)
        | "end" => some (some (.wordEnd f.unicode), rest)
        | "start-half" => some (some (.wordStartHalf f.unicode), rest)
        | "end-half" => some (some (.wordEndHalf f.unicode), rest)
        | _ => none

/-- What stands behind a backslash. -/
def escape (f : Flags) : List Char → Option (Atom × List Char)
  | [] => none
  | c :: cs =>
    if c.isDigit then none
    else match c with
      | 'x' => hexEscape f 2 cs
      | 'u' => hexEscape f 4 cs
      | 'U' => hexEscape f 8 cs
      | 'p' => propertyEscape f false cs
      | 'P' => propertyEscape f true cs
      | 'a' => some (.literal '\x07' false, cs)
      | 'f' => some (.literal '\x0c' false, cs)
      | 't' => some (.literal '\t' false, cs)
      | 'n' => some (.literal '\n' false, cs)
      | 'r' => some (.literal '\r' false, cs)
      | 'v' => some (.literal '\x0b' false, cs)
      | 'A' => some (.look .start, cs)
      | 'z' => some (.look .finish, cs)
      | 'B' => some (.look (.noBoundary f.unicode), cs)
      | '<' => some (.look (.wordStart f.unicode), cs)
      | '>' => some (.look (.wordEnd f.unicode), cs)
      | 'b' =>
        match cs with
        | '\x7b' :: _ =>
          match namedBoundary f cs with
          | none => none
          | some (some l, rest) => some (.look l, rest)
          | some (none, rest) => some (.look (.boundary f.unicode), rest)
        | _ => some (.look (.boundary f.unicode), cs)
      | c =>
        if "dswDSW".toList.contains c then (perlSet f c).map fun rs => (.set rs, cs)
        else if isMeta c then some (.literal c false, cs)
        else if c.toNat < 128 && !c.isAlpha then some (.literal c false, cs)
        else none

/-- The code point a literal has in a set. -/
def setPoint (f : Flags) : Atom → Option Nat
  | .literal c octet =>
    if f.unicode then some c.toNat
    else if octet && 127 < c.toNat then none
    else if c.toNat < 128 then some c.toNat
    else none
  | _ => none

/-! ## Bracketed sets -/

/-- `[:name:]` or `[:^name:]`, from the opening bracket. -/
def asciiClass? (f : Flags) : List Char → Option (Option Ranges × List Char)
  | '[' :: ':' :: cs =>
    let (negated, cs) :=
      match cs with
      | '^' :: rest => (true, rest)
      | _ => (false, cs)
    let name := cs.takeWhile (· != ':')
    match cs.dropWhile (· != ':') with
    | ':' :: ']' :: rest =>
      (asciiClasses.lookup (String.ofList name)).map fun rs => (finishSet f negated rs, rest)
    | _ => none
  | _ => none

/-- One unit of a set. -/
def setAtom (f : Flags) : List Char → Option (Atom × List Char)
  | '\\' :: cs => escape f cs
  | c :: cs => some (.literal c false, cs)
  | [] => none

def setOfAtom (f : Flags) : Atom → Option Ranges
  | .literal c octet => (setPoint f (.literal c octet)).map fun n => [(n, n)]
  | .set rs => some rs
  | .look _ => none

/-- A single unit of a set, or a range between two. -/
def setRange (f : Flags) (cs : List Char) : Option (Ranges × List Char) :=
  match setAtom f cs with
  | none => none
  | some (first, rest) =>
    match f.skip rest with
    | [] => none
    | '-' :: behind =>
      match f.peek behind with
      | some ']' | some '-' => (setOfAtom f first).map (·, '-' :: behind)
      | _ =>
        match setAtom f (f.skip behind) with
        | none => none
        | some (last, rest) =>
          match setPoint f first, setPoint f last with
          | some a, some b => if a ≤ b then some ([(a, b)], rest) else none
          | _, _ => none
    | rest => (setOfAtom f first).map (·, rest)

inductive SetOperation where
  | inter | diff | symmDiff

/-- How deep expressions and sets may lie in one another. -/
def deepest : Nat := 250

/-- What a set or an operand of one holds, with how many members, and how deep the sets in them
go. -/
structure Members where
  ranges : Ranges := []
  count : Nat := 0
  inner : Nat := 0

namespace Members

def add (m : Members) (rs : Ranges) (depth : Nat) : Members :=
  ⟨m.ranges ++ rs, m.count + 1, max m.inner depth⟩

/-- The depth of all members: several of them make a level of their own. -/
def depth (m : Members) : Nat := if m.count < 2 then m.inner else m.inner + 1

end Members

/-- An operator that waits for the operand behind it, with what stands before it. -/
structure Pending where
  operation : SetOperation
  left : Ranges
  depth : Nat

/-- What an operator makes of the operand before it and the one behind it, and its depth. -/
def combine (f : Flags) (pending : Option Pending) (m : Members) : Ranges × Nat :=
  match pending with
  | none => (m.ranges, m.depth)
  | some p =>
    let fold (r : Ranges) : Ranges := if f.ignoreCase then foldCase f.unicode r else .normal r
    let result :=
      match p.operation with
      | .inter => (fold p.left).inter (fold m.ranges)
      | .diff => (fold p.left).diff (fold m.ranges)
      | .symmDiff => (fold p.left).symmDiff (fold m.ranges)
    (result, max p.depth m.depth + 1)

/-- The hyphens a set may start with. -/
def leadingHyphens (f : Flags) : Nat → List Char → Members × List Char
  | 0, cs => ({}, cs)
  | fuel + 1, cs =>
    match cs with
    | '-' :: rest =>
      let (m, rest) := leadingHyphens f fuel (f.skip rest)
      (m.add [(45, 45)] 0, rest)
    | cs => ({}, cs)

/-- The start of a set, behind its opening bracket: the negation, hyphens, or a closing bracket
that stands for itself. -/
def setStart (f : Flags) (cs : List Char) : Bool × Members × List Char :=
  let cs := f.skip cs
  let (negated, cs) :=
    match cs with
    | '^' :: rest => (true, f.skip rest)
    | _ => (false, cs)
  let (m, rest) := leadingHyphens f cs.length cs
  match m.count, rest with
  | 0, ']' :: rest => (negated, m.add [(93, 93)] 0, f.skip rest)
  | _, rest => (negated, m, rest)

/-- The rest of a set, at a level of sets in one another: what an operator waits for, and what the
operand at hand has so far. It gives the set and its depth. -/
def setRest (f : Flags) : Nat → (level : Nat) → (negated : Bool) → Option Pending → Members →
    List Char → Option (Ranges × Nat × List Char)
  | 0, _, _, _, _, _ => none
  | fuel + 1, level, negated, pending, sofar, cs =>
    let operator (op : SetOperation) : Option Pending :=
      let (left, depth) := combine f pending sofar
      some ⟨op, left, depth⟩
    match f.skip cs with
    | [] => none
    | ']' :: rest =>
      let (rs, depth) := combine f pending sofar
      (finishSet f negated rs).map (·, depth + 1, rest)
    | '&' :: '&' :: rest => setRest f fuel level negated (operator .inter) {} rest
    | '-' :: '-' :: rest => setRest f fuel level negated (operator .diff) {} rest
    | '~' :: '~' :: rest => setRest f fuel level negated (operator .symmDiff) {} rest
    | '[' :: rest =>
      match asciiClass? f ('[' :: rest) with
      | some (some rs, rest) => setRest f fuel level negated pending (sofar.add rs 0) rest
      | some (none, _) => none
      | none =>
        if deepest ≤ level then none
        else
          let (inner, start, rest) := setStart f rest
          match setRest f fuel (level + 1) inner none start rest with
          | some (rs, depth, rest) =>
            setRest f fuel level negated pending (sofar.add rs depth) rest
          | none => none
    | cs =>
      match setRange f cs with
      | some (rs, rest) => setRest f fuel level negated pending (sofar.add rs 0) rest
      | none => none

/-- A set and its depth, behind its opening bracket. -/
def bracketed (f : Flags) (cs : List Char) : Option (Ranges × Nat × List Char) :=
  let (negated, start, rest) := setStart f cs
  setRest f (2 * cs.length + 2) 1 negated none start rest

/-! ## Repetition -/

/-- The digits at the front, blanks between them left out where the flag `x` lets them be. -/
def countDigits (f : Flags) : Nat → List Char → List Char → List Char × List Char
  | 0, read, cs => (read, cs)
  | fuel + 1, read, cs =>
    match cs with
    | c :: rest => if c.isDigit then countDigits f fuel (read ++ [c]) (f.skip rest) else (read, cs)
    | [] => (read, [])

/-- A count of thirty-two bits, with blanks around it. -/
def count? (f : Flags) (cs : List Char) : Option Nat × List Char :=
  let (ds, rest) := countDigits f cs.length [] (cs.dropWhile isBlank)
  let rest := f.skip (rest.dropWhile isBlank)
  let n := ds.foldl (fun n c => if UInt32.size ≤ n then n else 10 * n + (c.toNat - 48)) 0
  (if ds.isEmpty || UInt32.size ≤ n then none else some n, rest)

/-- The counts of a repetition, behind its opening brace. -/
def counts? (f : Flags) (cs : List Char) : Option (Nat × Option Nat × List Char) :=
  match count? f (f.skip cs) with
  | (none, _) => none
  | (some least, ',' :: rest) =>
    match f.skip rest with
    | '\x7d' :: rest => some (least, none, rest)
    | rest =>
      match count? f rest with
      | (some most, '\x7d' :: rest) => if least ≤ most then some (least, some most, rest) else none
      | _ => none
  | (some least, '\x7d' :: rest) => some (least, some least, rest)
  | _ => none

/-- Whether a question mark that changes the greed of a repetition follows, and what is left behind
it. -/
def lazyMark : List Char → Bool × List Char
  | '?' :: rest => (true, rest)
  | rest => (false, rest)

/-! ## Flags and names -/

def flagNames : List Char := ['i', 'm', 's', 'U', 'u', 'R', 'x']

/-- The flags up to a colon or a closing bracket: those set, those unset, and which of the two
characters ended them. -/
def flagList : List Char → (negated : Bool) → (seen : List Char) → (last : Bool) →
    Option (List (Char × Bool) × Char × List Char)
  | [], _, _, _ => none
  | c :: cs, negated, seen, last =>
    if c = ':' ∨ c = ')' then
      if last then none else some ([], c, cs)
    else if c = '-' then
      if negated then none else flagList cs true seen true
    else if flagNames.contains c && !seen.contains c then
      (flagList cs negated (c :: seen) false).map fun (fs, e, rest) => ((c, !negated) :: fs, e, rest)
    else none

def Flags.set (f : Flags) : Char × Bool → Flags
  | ('i', b) => { f with ignoreCase := b }
  | ('m', b) => { f with multiLine := b }
  | ('s', b) => { f with dotAll := b }
  | ('U', b) => { f with swapGreed := b }
  | ('u', b) => { f with unicode := b }
  | ('R', b) => { f with crlf := b }
  | ('x', b) => { f with spaced := b }
  | _ => f

/-- Letters in names of groups, and what may follow them. -/
def alphabetic : Lookup := .ofRanges (.union (property "Alphabetic") alphabeticLater)
def numeric : Lookup := .ofRanges (.union (["Nd", "Nl", "No"].flatMap category) numberLater)

/-- The name of a group, up to its closing angle bracket. -/
def groupName : List Char → List Char → Option (List Char × List Char)
  | _, [] => none
  | read, c :: cs =>
    if c = '>' then (if read.isEmpty then none else some (read, cs))
    else
      let letter := c == '_' || alphabetic.contains c.toNat
      let later := c == '.' || c == '[' || c == ']' || numeric.contains c.toNat
      if letter || (!read.isEmpty && later) then groupName (read ++ [c]) cs else none

/-! ## Expressions -/

/-- The characters a literal stands for. -/
def literalSet (f : Flags) (c : Char) (octet : Bool) : Option Ranges :=
  if !f.unicode && octet && 127 < c.toNat then none
  else if f.ignoreCase && (f.unicode || c.toNat < 128) then
    some (foldCase f.unicode [(c.toNat, c.toNat)])
  else some [(c.toNat, c.toNat)]

/-- The characters a point stands for. -/
def dotSet (f : Flags) : Option Ranges :=
  if !f.unicode then none
  else if f.dotAll then some [(0, lastPoint)]
  else if f.crlf then some (Ranges.complement [(10, 10), (13, 13)])
  else some (Ranges.complement [(10, 10)])

def exprOfAtom (f : Flags) : Atom → Option Expr
  | .literal c octet => (literalSet f c octet).map (.ofSet (!f.unicode))
  | .set rs => some (.ofSet (!f.unicode) rs)
  | .look l => some (.look l)

/-- A part of a sequence: a change of flags, which cannot be repeated, or an expression with its
depth. -/
inductive Part where
  | change
  | expr (e : Expr) (depth : Nat)

namespace Part

def toExpr : Part → Expr
  | change => .empty
  | expr e _ => e

def depth : Part → Nat
  | change => 0
  | expr _ d => d

end Part

/-- The depth of parts side by side: several of them make a level of their own. -/
def depthOf (ds : List Nat) : Nat :=
  match ds with
  | [] => 0
  | [d] => d
  | ds => ds.foldl max 0 + 1

/-- A sequence of parts, given last first. -/
def joinParts (ps : List Part) : Expr × Nat :=
  (.concat (ps.reverse.map Part.toExpr), depthOf (ps.map Part.depth))

/-- An alternation of branches, given last first. -/
def joinBranches : List (Expr × Nat) → Expr × Nat
  | [b] => b
  | bs => (.alternation (bs.reverse.map (·.1)), depthOf (bs.map (·.2)))

/-- What stands at the front of an expression. -/
inductive Front where
  /-- The end of the expression or of its group, whose bracket is left. -/
  | ended
  | branch
  | repeated (least : Nat) (most : Option Nat) (lazy : Bool)
  | atom (a : Atom)
  | set (rs : Ranges) (depth : Nat)
  /-- A group opens, with the flags inside it; one that is numbered may have a name. -/
  | group (inner : Flags) (numbered : Bool) (name : Option (List Char))
  /-- The flags change from here on. -/
  | change (inner : Flags)

def lineStart (f : Flags) : Atom :=
  .look (if !f.multiLine then .start else if f.crlf then .crlfStart else .lineStart)

def lineEnd (f : Flags) : Atom :=
  .look (if !f.multiLine then .finish else if f.crlf then .crlfEnd else .lineEnd)

/-- Flags behind a bracket and a question mark. -/
def flagFront (f : Flags) (cs : List Char) : Option (Front × List Char) :=
  match flagList cs false [] false with
  | none => none
  | some (changes, e, rest) =>
    let inner := changes.foldl Flags.set f
    if e = ':' then some (.group inner false none, rest)
    else if changes.isEmpty then none
    else some (.change inner, rest)

def namedFront (f : Flags) (cs : List Char) : Option (Front × List Char) :=
  (groupName [] cs).map fun (name, rest) => (.group f true (some name), rest)

/-- What stands behind an opening bracket. -/
def groupFront (f : Flags) : List Char → Option (Front × List Char)
  | '?' :: 'P' :: '<' :: rest => namedFront f rest
  | '?' :: '<' :: '=' :: _ => none
  | '?' :: '<' :: '!' :: _ => none
  | '?' :: '<' :: rest => namedFront f rest
  | '?' :: rest => flagFront f rest
  | rest => some (.group f true none, rest)

/-- A repetition by a single sign, which a question mark has to follow at once. -/
def signFront (least : Nat) (most : Option Nat) (rest : List Char) : Front × List Char :=
  let (lazy, rest) := lazyMark rest
  (.repeated least most lazy, rest)

/-- A repetition by counts, behind the opening brace. -/
def countFront (f : Flags) (rest : List Char) : Option (Front × List Char) :=
  (counts? f rest).map fun (least, most, rest) =>
    let (lazy, rest) := lazyMark (f.skip rest)
    (.repeated least most lazy, rest)

/-- What stands at the front, and the text behind it. -/
def front (f : Flags) (cs : List Char) : Option (Front × List Char) :=
  match cs with
  | [] => some (.ended, [])
  | c :: rest =>
    match c with
    | ')' => some (.ended, ')' :: rest)
    | '|' => some (.branch, rest)
    | '*' => some (signFront 0 none rest)
    | '+' => some (signFront 1 none rest)
    | '?' => some (signFront 0 (some 1) rest)
    | '\x7b' => countFront f rest
    | '[' => (bracketed f rest).map fun (rs, depth, rest) => (.set rs depth, rest)
    | '.' => (dotSet f).map fun rs => (.atom (.set rs), rest)
    | '^' => some (.atom (lineStart f), rest)
    | '$' => some (.atom (lineEnd f), rest)
    | '\\' => (escape f rest).map fun (a, rest) => (.atom a, rest)
    | '(' => groupFront f (f.skip rest)
    | c => some (.atom (.literal c false), rest)

namespace Found

/-- One group more; its name must be new. -/
def addGroup? (found : Found) : Option (List Char) → Option Found
  | none => some { found with groups := found.groups + 1 }
  | some name =>
    if found.names.contains name then none
    else some ⟨found.groups + 1, name :: found.names⟩

/-- What is found behind the bracket that opens a group. -/
def openGroup? (found : Found) (numbered : Bool) (name : Option (List Char)) : Option Found :=
  if numbered then found.addGroup? name else some found

end Found

/-- An expression up to its end or to the closing bracket of its group, at a level of groups in
one another: the branches before, and the parts of the one at hand. -/
def expression : Nat → (level : Nat) → Flags → Found → (branches : List (Expr × Nat)) →
    List Part → List Char → Option (Expr × Nat × Found × List Char)
  | 0, _, _, _, _, _, _ => none
  | fuel + 1, level, f, found, branches, parts, cs =>
    match front f (f.skip cs) with
    | none => none
    | some (.ended, rest) =>
      let (e, depth) := joinBranches (joinParts parts :: branches)
      some (e, depth, found, rest)
    | some (.branch, rest) => expression fuel level f found (joinParts parts :: branches) [] rest
    | some (.repeated least most lazy, rest) =>
      match parts with
      | .expr e depth :: earlier =>
        let whole := e.repeated least most (lazy == f.swapGreed)
        expression fuel level f found branches (.expr whole (depth + 1) :: earlier) rest
      | _ => none
    | some (.atom a, rest) =>
      match exprOfAtom f a with
      | none => none
      | some e => expression fuel level f found branches (.expr e 0 :: parts) rest
    | some (.set rs depth, rest) =>
      let e := Expr.ofSet (!f.unicode) rs
      expression fuel level f found branches (.expr e depth :: parts) rest
    | some (.change inner, rest) =>
      expression fuel level inner found branches (.change :: parts) rest
    | some (.group inner numbered name, rest) =>
      if deepest ≤ level then none
      else match found.openGroup? numbered name with
        | none => none
        | some here =>
          match expression fuel (level + 1) inner here [] [] rest with
          | some (e, depth, found, ')' :: rest) =>
            let whole := if numbered then .group here.groups e else e
            expression fuel level f found branches (.expr whole (depth + 1) :: parts) rest
          | _ => none

/-- The plain form of a text, if it is an expression whose parts do not lie too deep. -/
def readExpr? (pattern : String) : Option Expr :=
  let cs := pattern.toList
  match expression (2 * cs.length + 2) 0 {} {} [] [] cs with
  | some (e, depth, _, []) => if depth ≤ deepest then some e else none
  | _ => none

/-- The expression of a text, if it is one and its machines are not too large. -/
def parse? (pattern : String) : Option Regex :=
  match readExpr? pattern with
  | some e => if e.fits then some (.ofExpr e) else none
  | none => none

end Logworks.Regex
