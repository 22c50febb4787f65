import Logworks.Text.Blank
import Logworks.Text.Capital

/-!
# Levels

The severities of a record, in order, and `off` above them all, which only a threshold may be.
This file fixes

* `Level` with its ordinal, its names and the colour it is shown in;
* `Level.admits` -- whether a threshold lets a record of some level through: never one of `off`;
* `Level.parse` -- reading a name: blanks around it and the case of its letters do not matter, and
  `WARNING` and `FATAL` are second names.
-/

namespace Logworks

inductive Level where
  | trace | debug | info | warn | error | critical | off
  deriving DecidableEq, Repr, Inhabited

/-- The colours a terminal shows levels in. -/
inductive Colour where
  | white | cyan | green | yellow | red | brightRed
  deriving DecidableEq, Repr

namespace Colour

def name : Colour → String
  | white => "White"
  | cyan => "Cyan"
  | green => "Green"
  | yellow => "Yellow"
  | red => "Red"
  | brightRed => "BrightRed"

/-- The number that selects the colour in a terminal's escape sequence. -/
def code : Colour → String
  | white => "37"
  | cyan => "36"
  | green => "32"
  | yellow => "33"
  | red => "31"
  | brightRed => "91"

end Colour

namespace Level

/-- All levels, lowest first. -/
def all : List Level :=
  [trace, debug, info, warn, error, critical, off]

def ordinal : Level → Nat
  | trace => 0
  | debug => 1
  | info => 2
  | warn => 3
  | error => 4
  | critical => 5
  | off => 6

/-- The level of an ordinal; every number past the last one stands for `off`. -/
def ofOrdinal : Nat → Level
  | 0 => trace
  | 1 => debug
  | 2 => info
  | 3 => warn
  | 4 => error
  | 5 => critical
  | _ => off

@[simp] theorem ofOrdinal_ordinal (l : Level) : ofOrdinal l.ordinal = l := by
  cases l <;> rfl

instance : LE Level := ⟨fun a b => a.ordinal ≤ b.ordinal⟩
instance : LT Level := ⟨fun a b => a.ordinal < b.ordinal⟩
instance (a b : Level) : Decidable (a ≤ b) := inferInstanceAs (Decidable (a.ordinal ≤ b.ordinal))
instance (a b : Level) : Decidable (a < b) := inferInstanceAs (Decidable (a.ordinal < b.ordinal))

/-- The name a level has in a line. -/
def name : Level → String
  | trace => "TRACE"
  | debug => "DEBUG"
  | info => "INFO"
  | warn => "WARN"
  | error => "ERROR"
  | critical => "CRITICAL"
  | off => "OFF"

/-- The name a level has in a document. -/
def title : Level → String
  | trace => "Trace"
  | debug => "Debug"
  | info => "Info"
  | warn => "Warn"
  | error => "Error"
  | critical => "Critical"
  | off => "Off"

/-- The level of a name written exactly. -/
def ofName? (s : String) : Option Level :=
  all.find? fun l => l.name == s

def colour : Level → Colour
  | trace => .white
  | debug => .cyan
  | info => .green
  | warn => .yellow
  | error => .red
  | critical => .brightRed
  | off => .white

/-- Whether a threshold lets a record of a level through. A record of level `off` never passes. -/
def admits (threshold level : Level) : Bool :=
  level != off && decide (threshold ≤ level)

/-- The levels a threshold lets through, lowest first. -/
def admitted (threshold : Level) : List Level :=
  all.filter threshold.admits

@[simp] theorem not_admits_off (threshold : Level) : threshold.admits off = false := by
  simp [admits]

theorem off_admits_none (level : Level) : off.admits level = false := by
  cases level <;> rfl

/-! ## Reading a name -/

/-- The level whose name, or second name, is written with these capitals. -/
def ofCapitals? (cs : List Char) : Option Level :=
  match String.ofList cs with
  | "TRACE" => some trace
  | "DEBUG" => some debug
  | "INFO" => some info
  | "WARN" => some warn
  | "WARNING" => some warn
  | "ERROR" => some error
  | "CRITICAL" => some critical
  | "FATAL" => some critical
  | "OFF" => some off
  | _ => none

/-- A text that names no level. -/
structure Unknown where
  text : String
  deriving DecidableEq, Repr

/-- The refusal quotes the text as it was given, blanks and all. -/
def Unknown.message (u : Unknown) : String :=
  "Invalid log level: '" ++ u.text ++ "'"

/-- The level a text names, once the blanks around it are gone and its letters are capitals. -/
def parse (s : String) : Except Unknown Level :=
  match ofCapitals? (Text.capitals (Text.trim s.toList)) with
  | some l => .ok l
  | none => .error ⟨s⟩

end Level

end Logworks
