import Logworks.Unicode.CategoryTable
import Logworks.Unicode.PropertyTable
import Logworks.Unicode.LaterTable

/-!
# Quoted texts

A text inside a report stands between quotes, with every character visible: quotes, backslashes
and the common control characters have short forms, and a character that has no glyph of its own
or joins the one before it is written by its number.
-/

namespace Logworks.Text

open Logworks.Unicode

/-- Characters that have no glyph: controls, separators but for the blank, what is not assigned,
and the letters that stand for nothing. -/
def glyphless : Ranges :=
  (Ranges.normal (["Cc", "Cf", "Co", "Cn", "Zl", "Zp"].flatMap category ++
    (category "Zs").diff [(0x20, 0x20)] ++
    [(0x115F, 0x1160), (0x3164, 0x3164), (0xFFA0, 0xFFA0)])).diff addedLater

/-- Characters that join the one before them. The marks of voiced syllables of half width extend it
too, but have a glyph and a width of their own. -/
def joining : Ranges :=
  (Ranges.union (property "Grapheme_Extend") extendLater).diff [(0xFF9E, 0xFF9F)]

/-- Characters that are written by their number: no glyph, or one that joins the glyph before. -/
def hidden : Lookup := .ofRanges (.union glyphless joining)

/-- One character of a quoted text. -/
def quoteChar (c : Char) : List Char :=
  match c with
  | '\x00' => ['\\', '0']
  | '\t' => ['\\', 't']
  | '\r' => ['\\', 'r']
  | '\n' => ['\\', 'n']
  | '"' => ['\\', '"']
  | '\\' => ['\\', '\\']
  | c =>
    if 0x20 ≤ c.toNat ∧ c.toNat < 0x7F then [c]
    else if hidden.contains c.toNat then
      ['\\', 'u', '\x7b'] ++ Nat.toDigits 16 c.toNat ++ ['\x7d']
    else [c]

def quoted (s : String) : List Char :=
  '"' :: s.toList.flatMap quoteChar ++ ['"']

def quotedString (s : String) : String := String.ofList (quoted s)

end Logworks.Text
