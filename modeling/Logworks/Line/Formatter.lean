import Logworks.Line.Pattern
import Logworks.Level
import Logworks.Fault
import Logworks.Text.Escape

/-!
# Lines

A formatter turns the parts of a record into one line, after a pattern. The level and the name
are written as they are, the message with its line marks escaped, and the time as the directives
of the pattern say. This file fixes

* `Dial` -- a way to show time directives, whatever the zone and the language;
* `Formatter.ofPattern`, `Formatter.standard`;
* `Formatter.renderBy` -- the line of a record, by a dial;
* `Formatter.render` -- the same by the dial of universal time.

NOT here: the dials of other zones. The sinks write universal time.
-/

namespace Logworks.Line

open Logworks.Time Logworks.Text

/-- What a line is about. -/
structure Parts where
  time : Instant
  logger : String
  level : Level
  message : String
  deriving DecidableEq, Repr

/-- A way to show the time: what a directive stands for at an instant. -/
abbrev Dial := List Char → Instant → List Char

def Token.render (dial : Dial) (p : Parts) : Token → List Char
  | literal text => text
  | level => p.level.name.toList
  | loggerName => p.logger.toList
  | message => lineText p.message
  | time spec => dial spec p.time

/-- The line of a record after a list of tokens. -/
def renderTokens (dial : Dial) (ts : List Token) (p : Parts) : List Char :=
  ts.flatMap (Token.render dial p)

/-- A pattern with its tokens. -/
structure Formatter where
  pattern : String
  tokens : List Token
  deriving DecidableEq, Repr

def defaultPattern : String := "%Y-%m-%d %H:%M:%S [%l] %n: %v"

namespace Formatter

/-- The formatter of a pattern, or the fault that names it. -/
def ofPattern (pattern : String) : Except Fault Formatter :=
  match parseTokens Directive.isKnown pattern.toList with
  | .ok tokens => .ok ⟨pattern, tokens⟩
  | .error refusal => .error (.linePattern pattern refusal.message)

/-- The formatter of the default pattern. -/
def standard : Formatter :=
  match parseTokens Directive.isKnown defaultPattern.toList with
  | .ok tokens => ⟨defaultPattern, tokens⟩
  | .error _ => ⟨defaultPattern, []⟩

/-- The line of a record, the time shown by a dial. -/
def renderBy (f : Formatter) (dial : Dial) (p : Parts) : String :=
  String.ofList (renderTokens dial f.tokens p)

/-- The line of a record, in universal time. -/
def render (f : Formatter) (p : Parts) : String := f.renderBy Directive.render p

end Formatter

end Logworks.Line
