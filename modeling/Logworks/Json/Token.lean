import Logworks.Json.Numeral

/-!
# The tokens of a document

A document is read one character at a time by a machine with a stack of open arrays and objects.
What it recognises is a list of tokens that ends with one of four: the document is complete
(`done`), it ended inside a value (`ended`) or inside a number that needs one more digit
(`cutNumber`), or a character does not fit (`malformed`). Tokens come as early as a reader can tell
them, so a reader that refuses a value refuses it at the first character that decides. This file
fixes

* `Token` -- brackets, commas, keys, texts, and for numbers and words one token at the first
  character (`mark`) and one at the end;
* `Scanner.step` -- the machine;
* `tokens` -- the tokens of a text, always with an end.

Escapes of half a pair (`unpaired`) are told before the text they stand in: whoever reads the text
refuses it, whoever skips it goes on. A cut number is an end to whoever reads it, and malformed to
whoever skips it.
-/

namespace Logworks.Json

inductive Token where
  | beginArray | endArray | beginObject | endObject
  /-- A comma. -/
  | more
  | key (s : List Char)
  | text (s : List Char)
  | unpaired
  /-- A number or a word starts. -/
  | mark
  | number (l : Literal)
  | null
  | bool (b : Bool)
  /-- The text ends where a number needs one more digit. -/
  | cutNumber
  | done | ended | malformed
  deriving DecidableEq, Repr

/-! ## The states -/

/-- Where a text's escapes stand. -/
inductive Escape where
  | none
  | started
  /-- The hexadecimal digits so far, how many octets they took, and the half pair before them. -/
  | hex (seen : List Char) (size : Nat) (lead : Option Nat)
  /-- Half a pair has been read: the other half has to follow. -/
  | paired (lead : Nat)
  | pairedMark (lead : Nat)
  deriving DecidableEq, Repr

/-- Which part of a number is being read. -/
inductive Part where
  | sign | zero | whole | point | fraction | exponentMark | exponentSign | exponent
  deriving DecidableEq, Repr

namespace Part

/-- A number may end here. -/
def isComplete : Part → Bool
  | zero | whole | fraction | exponent => true
  | _ => false

end Part

inductive Mode where
  /-- A value has to start. -/
  | value
  /-- Behind an opening bracket. -/
  | firstItem
  | firstKey
  | key
  | colon
  /-- Behind a complete value. -/
  | after
  | text (isKey : Bool) (read : List Char) (escape : Escape)
  | word (rest : List Char) (meaning : Token)
  | number (part : Part) (read : Literal)
  deriving DecidableEq, Repr

/-- The machine: what it expects, and the open brackets, innermost first (`true` for an object). -/
structure Scanner where
  mode : Mode
  opened : List Bool
  deriving DecidableEq, Repr

/-- What a step gives: the tokens known by now, and the machine behind the character, or nothing
where the character does not fit. -/
structure Step where
  tokens : List Token := []
  next : Option Scanner
  deriving DecidableEq, Repr

namespace Step

def go (s : Scanner) (ts : List Token := []) : Step := ⟨ts, some s⟩

def refuse : Step := ⟨[], none⟩

/-- A step with a token before its own. -/
def after (t : Token) (s : Step) : Step := ⟨t :: s.tokens, s.next⟩

end Step

def isSpace (c : Char) : Bool := c == ' ' || c == '\n' || c == '\t' || c == '\r'

def isHexDigit (c : Char) : Bool :=
  c.isDigit || ('a' ≤ c && c ≤ 'f') || ('A' ≤ c && c ≤ 'F')

def hexDigitValue (c : Char) : Nat :=
  if c.isDigit then c.toNat - 48 else if 'a' ≤ c then c.toNat - 87 else c.toNat - 55

namespace Scanner

def start : Scanner := ⟨.value, []⟩

/-- A value starts with a character. -/
def beginValue (opened : List Bool) (c : Char) : Step :=
  if c = '"' then .go ⟨.text false [] .none, opened⟩
  else if c = '[' then .go ⟨.firstItem, false :: opened⟩ [.beginArray]
  else if c = '\x7b' then .go ⟨.firstKey, true :: opened⟩ [.beginObject]
  else if c = '-' then .go ⟨.number .sign ⟨true, [], [], none⟩, opened⟩ [.mark]
  else if c = '0' then .go ⟨.number .zero ⟨false, [c], [], none⟩, opened⟩ [.mark]
  else if c.isDigit then .go ⟨.number .whole ⟨false, [c], [], none⟩, opened⟩ [.mark]
  else if c = 'n' then .go ⟨.word ['u', 'l', 'l'] .null, opened⟩ [.mark]
  else if c = 't' then .go ⟨.word ['r', 'u', 'e'] (.bool true), opened⟩ [.mark]
  else if c = 'f' then .go ⟨.word ['a', 'l', 's', 'e'] (.bool false), opened⟩ [.mark]
  else .refuse

/-- A character behind a complete value. -/
def afterValue (opened : List Bool) (c : Char) : Step :=
  if isSpace c then .go ⟨.after, opened⟩
  else match opened with
    | [] => .refuse
    | false :: outer =>
      if c = ',' then .go ⟨.value, opened⟩ [.more]
      else if c = ']' then .go ⟨.after, outer⟩ [.endArray]
      else .refuse
    | true :: outer =>
      if c = ',' then .go ⟨.key, opened⟩ [.more]
      else if c = '\x7d' then .go ⟨.after, outer⟩ [.endObject]
      else .refuse

/-- What a number becomes with one more character, while that belongs to it. -/
def extendNumber (part : Part) (l : Literal) (c : Char) : Option (Part × Literal) :=
  match part with
  | .sign =>
    if c = '0' then some (.zero, { l with whole := [c] })
    else if c.isDigit then some (.whole, { l with whole := [c] })
    else none
  | .zero => fractionOrExponent c
  | .whole =>
    if c.isDigit then some (.whole, { l with whole := l.whole ++ [c] }) else fractionOrExponent c
  | .point =>
    if c.isDigit then some (.fraction, { l with fraction := [c] }) else none
  | .fraction =>
    if c.isDigit then some (.fraction, { l with fraction := l.fraction ++ [c] })
    else exponentOnly c
  | .exponentMark =>
    if c = '+' then some (.exponentSign, l)
    else if c = '-' then some (.exponentSign, { l with exponent := some (true, []) })
    else exponentDigit c
  | .exponentSign => exponentDigit c
  | .exponent => exponentDigit c
where
  exponentOnly (c : Char) : Option (Part × Literal) :=
    if c = 'e' ∨ c = 'E' then some (.exponentMark, { l with exponent := some (false, []) }) else none
  fractionOrExponent (c : Char) : Option (Part × Literal) :=
    if c = '.' then some (.point, l) else exponentOnly c
  exponentDigit (c : Char) : Option (Part × Literal) :=
    if c.isDigit then
      some (.exponent, { l with exponent := l.exponent.map fun e => (e.1, e.2 ++ [c]) })
    else none

/-- A character inside a number, or the first behind it. A second digit behind a first zero is
neither. -/
def stepNumber (opened : List Bool) (part : Part) (l : Literal) (c : Char) : Step :=
  match extendNumber part l c with
  | some (part, l) => .go ⟨.number part l, opened⟩
  | none =>
    if part.isComplete && !(part == .zero && c.isDigit) then
      (afterValue opened c).after (.number l)
    else .refuse

/-- The letter behind a backslash, where it stands for one character. -/
def shortEscape? : Char → Option Char
  | '"' => some '"'
  | '\\' => some '\\'
  | '/' => some '/'
  | 'b' => some '\x08'
  | 'f' => some '\x0c'
  | 'n' => some '\n'
  | 'r' => some '\r'
  | 't' => some '\t'
  | _ => none

def isLead (n : Nat) : Bool := 0xD800 ≤ n && n ≤ 0xDBFF
def isTrail (n : Nat) : Bool := 0xDC00 ≤ n && n ≤ 0xDFFF

/-- A character of a text outside any escape. -/
def plainText (opened : List Bool) (isKey : Bool) (read : List Char) (c : Char) : Step :=
  if c = '"' then
    if isKey then .go ⟨.colon, opened⟩ [.key read] else .go ⟨.after, opened⟩ [.text read]
  else if c = '\\' then .go ⟨.text isKey read .started, opened⟩
  else if c.toNat < 0x20 then .refuse
  else .go ⟨.text isKey (read ++ [c]) .none, opened⟩

/-- The character behind a backslash. -/
def escapedText (opened : List Bool) (isKey : Bool) (read : List Char) (c : Char) : Step :=
  if c = 'u' then .go ⟨.text isKey read (.hex [] 0 none), opened⟩
  else match shortEscape? c with
    | some d => .go ⟨.text isKey (read ++ [d]) .none, opened⟩
    | none => .refuse

/-- The value of an escape by number, once its four digits are there. -/
def hexText (opened : List Bool) (isKey : Bool) (read : List Char) (lead : Option Nat) (n : Nat) :
    Step :=
  let plain (c : Nat) : Scanner := ⟨.text isKey (read ++ [Char.ofNat c]) .none, opened⟩
  match lead with
  | some l =>
    if isTrail n then .go (plain (0x10000 + (l - 0xD800) * 0x400 + (n - 0xDC00)))
    else .go (plain 0xFFFD) [.unpaired]
  | none =>
    if isTrail n then .go (plain 0xFFFD) [.unpaired]
    else if isLead n then .go ⟨.text isKey read (.paired n), opened⟩
    else .go (plain n)

/-- A character inside a text. -/
def stepText (opened : List Bool) (isKey : Bool) (read : List Char) (e : Escape) (c : Char) : Step :=
  match e with
  | .none => plainText opened isKey read c
  | .started => escapedText opened isKey read c
  | .hex seen size lead =>
    let seen := seen ++ [c]
    let size := size + c.utf8Size
    if size < 4 then .go ⟨.text isKey read (.hex seen size lead), opened⟩
    else if seen.all isHexDigit && seen.length == 4 then
      hexText opened isKey read lead (seen.foldl (fun n d => 16 * n + hexDigitValue d) 0)
    else .refuse
  | .paired lead =>
    if c = '\\' then .go ⟨.text isKey read (.pairedMark lead), opened⟩
    else (plainText opened isKey read c).after .unpaired
  | .pairedMark lead =>
    if c = 'u' then .go ⟨.text isKey read (.hex [] 0 (some lead)), opened⟩
    else (escapedText opened isKey read c).after .unpaired

/-- One character. -/
def step (s : Scanner) (c : Char) : Step :=
  match s.mode with
  | .value => if isSpace c then .go s else beginValue s.opened c
  | .firstItem =>
    if isSpace c then .go s
    else if c = ']' then .go ⟨.after, s.opened.tail⟩ [.endArray]
    else beginValue s.opened c
  | .firstKey =>
    if isSpace c then .go s
    else if c = '\x7d' then .go ⟨.after, s.opened.tail⟩ [.endObject]
    else if c = '"' then .go ⟨.text true [] .none, s.opened⟩
    else .refuse
  | .key =>
    if isSpace c then .go s
    else if c = '"' then .go ⟨.text true [] .none, s.opened⟩
    else .refuse
  | .colon =>
    if isSpace c then .go s
    else if c = ':' then .go ⟨.value, s.opened⟩
    else .refuse
  | .after => afterValue s.opened c
  | .text isKey read e => stepText s.opened isKey read e c
  | .word [] meaning => (afterValue s.opened c).after meaning
  | .word (d :: rest) meaning =>
    if c = d then
      if rest.isEmpty then .go ⟨.after, s.opened⟩ [meaning]
      else .go ⟨.word rest meaning, s.opened⟩
    else .refuse
  | .number part l => stepNumber s.opened part l c

/-- The tokens at the end of the text. -/
def finish (s : Scanner) : List Token :=
  let last : Token := if s.opened.isEmpty then .done else .ended
  match s.mode with
  | .after => [last]
  | .number part l => if part.isComplete then [.number l, last] else [.cutNumber]
  | _ => [.ended]

/-- The tokens of a text from a state on. -/
def scan (s : Scanner) : List Char → List Token
  | [] => s.finish
  | c :: cs =>
    let result := s.step c
    result.tokens ++
      match result.next with
      | none => [.malformed]
      | some s => s.scan cs

end Scanner

/-- The tokens of a document. -/
def tokens (document : String) : List Token :=
  Scanner.start.scan document.toList

end Logworks.Json
