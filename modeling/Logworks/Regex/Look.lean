import Logworks.Unicode.PropertyTable
import Logworks.Unicode.CategoryTable

/-!
# Conditions on a position

An expression may ask for the start of the text, the end of a line, the boundary of a word.
Whether such a condition holds is a matter of the two characters beside the position. This file
fixes

* `Position`, `Look`;
* `Look.holds` -- whether a condition holds at a position.
-/

namespace Logworks.Regex

open Logworks.Unicode

/-- The characters before and behind a position. -/
structure Position where
  before : Option Char
  behind : Option Char
  deriving DecidableEq, Repr

/-- A condition on a position. -/
inductive Look where
  | start | finish | lineStart | lineEnd | crlfStart | crlfEnd
  | boundary (unicode : Bool) | noBoundary (unicode : Bool)
  | wordStart (unicode : Bool) | wordEnd (unicode : Bool)
  | wordStartHalf (unicode : Bool) | wordEndHalf (unicode : Bool)
  deriving DecidableEq, Repr

/-- The characters of words: letters, marks, digits, connectors and joiners. -/
def wordRanges : Ranges :=
  .normal (property "Alphabetic" ++ property "Join_Control" ++
    ["Mn", "Mc", "Me", "Nd", "Pc"].flatMap category)

def wordLookup : Lookup := .ofRanges wordRanges

def isAsciiWord (c : Char) : Bool := c.isAlphanum || c == '_'

def isWord (unicode : Bool) : Option Char → Bool
  | none => false
  | some c => if unicode then wordLookup.contains c.toNat else isAsciiWord c

namespace Look

def holds (p : Position) : Look → Bool
  | start => p.before.isNone
  | finish => p.behind.isNone
  | lineStart => p.before.isNone || p.before == some '\n'
  | lineEnd => p.behind.isNone || p.behind == some '\n'
  | crlfStart =>
    p.before.isNone || p.before == some '\n' || (p.before == some '\r' && p.behind != some '\n')
  | crlfEnd =>
    p.behind.isNone || p.behind == some '\r' || (p.behind == some '\n' && p.before != some '\r')
  | boundary u => isWord u p.before != isWord u p.behind
  | noBoundary u => isWord u p.before == isWord u p.behind
  | wordStart u => !isWord u p.before && isWord u p.behind
  | wordEnd u => isWord u p.before && !isWord u p.behind
  | wordStartHalf u => !isWord u p.before
  | wordEndHalf u => !isWord u p.behind

end Look

end Logworks.Regex
