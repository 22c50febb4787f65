import Logworks.Outcome
import Logworks.Record
import Logworks.Regex.Parser

/-!
# Filters

A filter admits a record or not. Besides the record it sees the fields in force where the record
was logged; a name is looked up there first, then in the record. A predicate of the host may
throw, which ends the evaluation. This file fixes

* `Filter` -- levels, fields, expressions, predicates of the host, and combinations of filters;
* `Trial` -- a verdict, and the marks the predicates left that were evaluated on the way to it;
* `Filter.check` -- **from left to right, no further than the first filter that decides**;
* `Admission` -- the single predicate and the list of filters of a logger.
-/

namespace Logworks

/-- What a filter sees. -/
structure Scene where
  record : Record
  ambient : Fields
  /-- The name of the thread that evaluates. -/
  thread : Option String := none
  deriving DecidableEq, Repr

namespace Scene

/-- The fields in force come before those of the record. -/
def lookup (s : Scene) (key : String) : Option String :=
  match s.ambient.get? key with
  | some v => some v
  | none => s.record.fields.get? key

end Scene

/-! ## Trials -/

inductive Verdict where
  | admits | rejects
  | throws (p : Payload)
  deriving DecidableEq, Repr

/-- A verdict with the marks left on the way, in order. -/
structure Trial where
  verdict : Verdict
  marks : List String := []
  deriving DecidableEq, Repr

namespace Trial

def ofBool (b : Bool) : Trial := ⟨if b then .admits else .rejects, []⟩

/-- Marks that were left before. -/
def after (marks : List String) (t : Trial) : Trial := ⟨t.verdict, marks ++ t.marks⟩

/-- Goes on only if the first admits. -/
def andThen (t : Trial) (next : Trial) : Trial :=
  match t.verdict with
  | .admits => next.after t.marks
  | _ => t

end Trial

/-! ## Filters -/

inductive Mode where
  /-- Every child has to admit. -/
  | all
  /-- One child has to admit. -/
  | any
  deriving DecidableEq, Repr

def Mode.name : Mode → String
  | all => "And"
  | any => "Or"

/-- A filter over predicates of a type the host chooses. -/
inductive Filter (π : Type) where
  | level (least : Level)
  | field (key expected : String)
  /-- An expression over the message, or over a field. -/
  | regex (expression : Regex) (invert : Bool) (field : Option String)
  | predicate (p : π)
  | composite (mode : Mode) (filters : List (Filter π))

namespace Filter

variable {π : Type}

/-- The text an expression is matched against; a field that is not there is empty. -/
def subject (s : Scene) : Option String → String
  | some key => (s.lookup key).getD ""
  | none => s.record.message

mutual
/-- The verdict of a filter. -/
def check (eval : π → Scene → Trial) (s : Scene) : Filter π → Trial
  | level least => .ofBool (decide (least ≤ s.record.level))
  | field key expected => .ofBool (s.lookup key == some expected)
  | regex e invert source => .ofBool (e.isMatch (subject s source) != invert)
  | predicate p => eval p s
  | composite _ [] => ⟨.admits, []⟩
  | composite .all (f :: fs) => checkAll eval s (f :: fs)
  | composite .any (f :: fs) => checkAny eval s (f :: fs)

/-- Every filter has to admit; the first that does not decides. -/
def checkAll (eval : π → Scene → Trial) (s : Scene) : List (Filter π) → Trial
  | [] => ⟨.admits, []⟩
  | f :: fs =>
    let first := check eval s f
    match first.verdict with
    | .admits => (checkAll eval s fs).after first.marks
    | _ => first

/-- One filter has to admit; the first that does decides. -/
def checkAny (eval : π → Scene → Trial) (s : Scene) : List (Filter π) → Trial
  | [] => ⟨.rejects, []⟩
  | f :: fs =>
    let first := check eval s f
    match first.verdict with
    | .rejects => (checkAny eval s fs).after first.marks
    | _ => first
end

/-- A combination of filters in short. -/
def summary (mode : Mode) (filters : List (Filter π)) : String :=
  "CompositeFilter \x7b mode: " ++ mode.name ++ ", filters: " ++ toString filters.length ++ " \x7d"

end Filter

/-! ## The filters of a logger -/

/-- A single predicate, which does not see the fields in force, and filters after it. -/
structure Admission (π : Type) where
  predicate : Option π := none
  filters : List (Filter π) := []

namespace Admission

variable {π : Type}

/-- There is something to evaluate. -/
def isActive (a : Admission π) : Bool := a.predicate.isSome || !a.filters.isEmpty

def check (a : Admission π) (eval : π → Scene → Trial) (s : Scene) : Trial :=
  match a.predicate with
  | none => Filter.checkAll eval s a.filters
  | some p =>
    (eval p { s with ambient := {} }).andThen (Filter.checkAll eval s a.filters)

end Admission

end Logworks
