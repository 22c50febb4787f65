import Logworks.Delivery.Policy
import Logworks.Line.Formatter

/-!
# Configuration

What a logger can be told in a document: its level, its line pattern, and the room and policy of
its queue. Every field has a default. This file fixes

* `Config.reader`, `Config.toValue` -- the document, read and written;
* `Config.validate` -- the three checks, in order: the queue has room, a limit to wait is no
  zero, the pattern can be read;
* `Config.ofDocument` -- both together.
-/

namespace Logworks

open Logworks.Json Logworks.Delivery Logworks.Line

/-! ## Levels in documents -/

def Level.reader : Reader Level :=
  Reader.choice (Level.all.map fun l => (l.title, .bare l))

def Level.toValue (l : Level) : Value := .text l.title

/-! ## The configuration of a logger -/

structure Config where
  level : Level := .trace
  pattern : String := defaultPattern
  queueCapacity : Nat := 8192
  policy : Policy := .standard
  deriving DecidableEq, Repr

namespace Config

/-- A field as read from a document. -/
inductive Entry where
  | level (l : Level)
  | pattern (s : String)
  | queueCapacity (n : Nat)
  | policy (p : Policy)

def set (c : Config) : Entry → Config
  | .level l => { c with level := l }
  | .pattern s => { c with pattern := s }
  | .queueCapacity n => { c with queueCapacity := n }
  | .policy p => { c with policy := p }

def fields : List (Reader.Field Entry) :=
  [⟨"default_level", Level.reader.map .level⟩,
   ⟨"pattern", Reader.string.map .pattern⟩,
   ⟨"queue_capacity", (Reader.word64 "usize").map .queueCapacity⟩,
   ⟨"overflow_policy", Policy.reader.map .policy⟩]

/-- Fields that are missing keep their defaults; fields that are not known are passed over. -/
def reader : Reader Config :=
  (Reader.record "Config" ⟨false, false⟩ fields).map fun entries =>
    entries.foldl (fun c e => c.set e.2) {}

def toValue (c : Config) : Value :=
  .object [("default_level", c.level.toValue), ("pattern", .text c.pattern),
    ("queue_capacity", .whole c.queueCapacity), ("overflow_policy", c.policy.toValue)]

/-- The formatter of the pattern, if the configuration holds together. -/
def validate (c : Config) : Except Fault Formatter :=
  if c.queueCapacity = 0 then
    .error (.configuration "queue_capacity" "must be greater than zero")
  else match c.policy with
    | .blockWithin limit =>
      if limit.isZero then
        .error (.configuration "overflow_policy" "BlockWithTimeout requires a non-zero timeout")
      else Formatter.ofPattern c.pattern
    | _ => Formatter.ofPattern c.pattern

/-- Reads a document without checking what it says. -/
def ofDocumentUnchecked (document : String) : Except Fault Config :=
  match Reader.run reader document with
  | .ok c => .ok c
  | .error e => .error (.document e)

def ofDocument (document : String) : Except Fault Config :=
  match ofDocumentUnchecked document with
  | .error f => .error f
  | .ok c =>
    match c.validate with
    | .error f => .error f
    | .ok _ => .ok c

/-- The fault of a configuration file that could not be read. -/
def unreadable (path : String) (cause : Cause) : Fault :=
  .operation "reading logger configuration" ("cannot read '" ++ path ++ "'") cause

end Config

end Logworks
