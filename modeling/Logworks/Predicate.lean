import Logworks.Filter

/-!
# Predicates

Ready-made predicates over a record and the fields in force around it. A predicate may leave a
mark each time it is evaluated, and one of them throws.
-/

namespace Logworks

/-- What a predicate asks. -/
inductive Question where
  | always
  | contains (part : String)
  /-- The message has fewer octets. -/
  | shorter (octets : Nat)
  | atLeast (level : Level)
  | logger (name : String)
  | hasField (key : String)
  | fieldCount (n : Nat)
  | hasAmbient (key : String)
  /-- The thread that evaluates has this name. -/
  | thread (name : String)
  | throws (words : String)
  | never
  deriving DecidableEq, Repr

/-- A question, and the mark left when it is asked. -/
structure Predicate where
  question : Question
  mark : Option String := none
  deriving DecidableEq, Repr

/-- Whether a text occurs in another. -/
def occursIn (part : List Char) : List Char → Bool
  | [] => part.isEmpty
  | c :: cs => part.isPrefixOf (c :: cs) || occursIn part cs

namespace Question

def ask (s : Scene) : Question → Verdict
  | always => .admits
  | contains part => ofBool (occursIn part.toList s.record.message.toList)
  | shorter octets => ofBool (s.record.message.utf8ByteSize < octets)
  | atLeast level => ofBool (level ≤ s.record.level)
  | logger name => ofBool (s.record.logger == name)
  | hasField key => ofBool (s.record.fields.contains key)
  | fieldCount n => ofBool (s.record.fields.size == n)
  | hasAmbient key => ofBool (s.ambient.contains key)
  | thread name => ofBool (s.thread == some name)
  | throws words => .throws (.text words)
  | never => .rejects
where
  ofBool (b : Bool) : Verdict := if b then .admits else .rejects

end Question

/-- The mark comes first, also where the question throws. -/
def Predicate.eval (p : Predicate) (s : Scene) : Trial :=
  ⟨p.question.ask s, p.mark.toList⟩

end Logworks
