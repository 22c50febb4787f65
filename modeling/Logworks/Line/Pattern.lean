import Logworks.Time.Directive

/-!
# Line patterns

A pattern is a text with directives in it: `%l`, `%n` and `%v` stand for the level, the logger's
name and the message, `%%` for a percent sign, and every other percent sign with modifiers and
one character for a part of the time. This file fixes

* `Token` and `unparse` -- what a pattern is made of, and the pattern a list of tokens is
  written as;
* `scan` -- the reading, one character at a time, from left to right. Which time directives there
  are is a parameter (`accepts`), so what the scan does to the rest does not hang on them;
* `Pattern.parse` -- the reading with the known time directives, and its two refusals in words.
-/

namespace Logworks.Line

open Logworks.Time

inductive Token where
  | literal (text : List Char)
  | level
  | loggerName
  | message
  /-- A time directive, percent sign included. -/
  | time (spec : List Char)
  deriving DecidableEq, Repr

/-- Characters that may stand between a percent sign and the character it is about. -/
def isModifier (c : Char) : Bool :=
  c == '-' || c == '_' || c == '0' || c == '.' || c == ':' || c == '#' || c.isDigit

/-- Why a pattern is refused. -/
inductive Refusal where
  | dangling
  | unsupported (spec : List Char)
  deriving DecidableEq, Repr

def Refusal.message : Refusal → String
  | dangling => "dangling '%' at end of pattern"
  | unsupported spec => "unsupported directive '" ++ String.ofList spec ++ "'"

/-! ## Writing -/

/-- A literal text with every percent sign doubled. -/
def doublePercent (cs : List Char) : List Char :=
  cs.flatMap fun c => if c = '%' then ['%', '%'] else [c]

def Token.unparse : Token → List Char
  | literal text => doublePercent text
  | level => ['%', 'l']
  | loggerName => ['%', 'n']
  | message => ['%', 'v']
  | time spec => spec

def unparse (ts : List Token) : List Char :=
  ts.flatMap Token.unparse

/-! ## Reading -/

/-- A character put before tokens: it joins a literal that is there. -/
def pushLiteral (c : Char) : List Token → List Token
  | .literal text :: ts => .literal (c :: text) :: ts
  | ts => .literal [c] :: ts

/-- Reads from left to right. The first argument holds the modifiers since the last percent sign,
or nothing outside a directive. -/
def scan (accepts : List Char → Bool) : Option (List Char) → List Char →
    Except Refusal (List Token)
  | none, [] => .ok []
  | some _, [] => .error .dangling
  | none, c :: cs =>
    if c = '%' then scan accepts (some []) cs
    else (scan accepts none cs).map (pushLiteral c)
  | some mods, c :: cs =>
    if isModifier c then scan accepts (some (mods ++ [c])) cs
    else match mods, c with
      | [], '%' => (scan accepts none cs).map (pushLiteral '%')
      | [], 'l' => (scan accepts none cs).map (Token.level :: ·)
      | [], 'n' => (scan accepts none cs).map (Token.loggerName :: ·)
      | [], 'v' => (scan accepts none cs).map (Token.message :: ·)
      | _, _ =>
        let spec := '%' :: mods ++ [c]
        if accepts spec then (scan accepts none cs).map (Token.time spec :: ·)
        else .error (.unsupported spec)

/-- The tokens of a pattern whose time directives are those accepted. -/
def parseTokens (accepts : List Char → Bool) (cs : List Char) : Except Refusal (List Token) :=
  scan accepts none cs

end Logworks.Line
