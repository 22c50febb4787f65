import Logworks.Json.Token
import Logworks.Json.Value
import Logworks.Text.Quoted

/-!
# Reading documents into types

A reader takes tokens from the front and gives a value, or says why there is none. This file fixes

* the readers of numbers, truth values and texts, each with the wording of its refusals;
* `choice` -- a type of alternatives, written as a name or as an object with one member;
* `record` -- a type with named fields, written as an object or as an array in their order.

Refusals are told in the order of the text: the first token that does not fit decides.
-/

namespace Logworks.Json

open Logworks.Number Logworks.Text

abbrev Reader (α : Type) := List Token → Except Error (α × List Token)

namespace Reader

def pure {α : Type} (a : α) : Reader α := fun ts => .ok (a, ts)

def bind {α β : Type} (r : Reader α) (f : α → Reader β) : Reader β := fun ts =>
  match r ts with
  | .ok (a, rest) => f a rest
  | .error e => .error e

def map {α β : Type} (f : α → β) (r : Reader α) : Reader β := r.bind fun a => Reader.pure (f a)

def fail {α : Type} (e : Error) : Reader α := fun _ => .error e

/-- The refusal that an end of the tokens means. -/
def endError : List Token → Error
  | [] | .ended :: _ | .cutNumber :: _ => .ended
  | _ => .malformed

/-! ## What was seen -/

def wholeText (z : Int) : String := "integer `" ++ String.ofList (Value.wholeLiteral z) ++ "`"

def doubleText (x : Binary64) : String :=
  "floating point `" ++ String.ofList (Value.doubleLiteral x) ++ "`"

def numeralText : Numeral → String
  | .natural n => wholeText n
  | .negative n => wholeText (-n)
  | .double x => doubleText x

/-- The words for a value that starts with these tokens, once it is known to be one. -/
def seen : List Token → Except Error String
  | .mark :: .null :: _ => .ok "null"
  | .mark :: .bool b :: _ => .ok ("boolean `" ++ (if b then "true" else "false") ++ "`")
  | .mark :: .number l :: _ => l.numeral.map numeralText
  | .mark :: rest => .error (endError rest)
  | .text s :: _ => .ok ("string " ++ String.ofList (quoted (String.ofList s)))
  | .beginArray :: _ => .ok "sequence"
  | .beginObject :: _ => .ok "map"
  | ts => .error (endError ts)

/-- Refuses whatever value comes: it has the wrong type. -/
def mismatch {α : Type} (wanted : String) : Reader α := fun ts =>
  match seen ts with
  | .ok words => .error (.unfit ("invalid type: " ++ words ++ ", expected " ++ wanted))
  | .error e => .error e

/-! ## Single values -/

/-- A number, as it was read. -/
def numeral (wanted : String) : Reader Numeral
  | .mark :: .number l :: rest => l.numeral.map fun n => (n, rest)
  | ts => mismatch wanted ts

def outOfRange {α : Type} (z : Int) (wanted : String) : Except Error α :=
  .error (.unfit ("invalid value: " ++ wholeText z ++ ", expected " ++ wanted))

/-- A whole number from 0 to a greatest one. -/
def natural (greatest : Nat) (wanted : String) : Reader Nat := fun ts =>
  match numeral wanted ts with
  | .error e => .error e
  | .ok (.natural n, rest) => if n ≤ greatest then .ok (n, rest) else outOfRange n wanted
  | .ok (.negative n, _) => outOfRange (-n) wanted
  | .ok (.double x, _) =>
    .error (.unfit ("invalid type: " ++ doubleText x ++ ", expected " ++ wanted))

/-- A whole number between two bounds. -/
def integer (least greatest : Int) (wanted : String) : Reader Int := fun ts =>
  match numeral wanted ts with
  | .error e => .error e
  | .ok (.natural n, rest) => if (n : Int) ≤ greatest then .ok (n, rest) else outOfRange n wanted
  | .ok (.negative n, rest) =>
    if least ≤ -(n : Int) then .ok (-n, rest) else outOfRange (-n) wanted
  | .ok (.double x, _) =>
    .error (.unfit ("invalid type: " ++ doubleText x ++ ", expected " ++ wanted))

def word64 (wanted : String) : Reader Nat := natural (UInt64.size - 1) wanted

/-- A number of double precision; whole numbers are converted. -/
def double : Reader Binary64 :=
  (numeral "f64").map fun
    | .natural n => .ofNat n
    | .negative n => .ofInt (-n)
    | .double x => x

def truth : Reader Bool
  | .mark :: .bool b :: rest => .ok (b, rest)
  | ts => mismatch "a boolean" ts

def string : Reader String
  | .text s :: rest => .ok (String.ofList s, rest)
  | ts => mismatch "a string" ts

/-- Nothing, written `null`. -/
def unit : Reader Unit
  | .mark :: .null :: rest => .ok ((), rest)
  | ts => mismatch "unit" ts

/-! ## Skipping -/

/-- What is left behind a value that is not read, from inside `depth` open brackets. -/
def skipFrom : Nat → List Token → Except Error (List Token)
  | _, [] => .error .ended
  | depth, t :: ts =>
    match t with
    | .beginArray | .beginObject => skipFrom (depth + 1) ts
    | .endArray | .endObject =>
      if depth ≤ 1 then .ok ts else skipFrom (depth - 1) ts
    | .text _ | .number _ | .null | .bool _ => if depth = 0 then .ok ts else skipFrom depth ts
    | .key _ | .more | .mark | .unpaired => skipFrom depth ts
    | .cutNumber | .malformed | .done => .error .malformed
    | .ended => .error .ended

def skip : Reader Unit := fun ts => (skipFrom 0 ts).map fun rest => ((), rest)

/-! ## Alternatives -/

/-- `` `A`, `B` or `C` `` without the `or`: names in back quotes. -/
def nameList (names : List String) : String :=
  ", ".intercalate (names.map fun n => "`" ++ n ++ "`")

/-- An alternative: a bare name, or a name with a value. -/
inductive Alternative (α : Type) where
  | bare (a : α)
  | carrying (r : Reader α)

/-- What a name stands for among alternatives. -/
def pick {α : Type} (alternatives : List (String × Alternative α)) (name : List Char) :
    Except Error (Alternative α) :=
  match alternatives.lookup (String.ofList name) with
  | some a => .ok a
  | none => .error (.unfit ("unknown variant `" ++ String.ofList name ++ "`, expected one of " ++
      nameList (alternatives.map (·.1))))

/-- A value of a type of alternatives: a bare name as a text, any of them as an object with one
member. -/
def choice {α : Type} (alternatives : List (String × Alternative α)) : Reader α
  | .text name :: rest =>
    match pick alternatives name with
    | .error e => .error e
    | .ok (.bare a) => .ok (a, rest)
    | .ok (.carrying _) =>
      .error (.unfit "invalid type: unit variant, expected newtype variant")
  | .beginObject :: .key name :: rest =>
    match pick alternatives name with
    | .error e => .error e
    | .ok alternative =>
      let value : Reader α :=
        match alternative with
        | .bare a => unit.map fun _ => a
        | .carrying r => r
      match value rest with
      | .error e => .error e
      | .ok (a, .endObject :: rest) => .ok (a, rest)
      | .ok (_, rest) => .error (endError rest)
  | .beginObject :: rest => .error (endError rest)
  | ts => .error (endError ts)

/-! ## Records -/

/-- A field of a record: its name, and the reader of its value into a common type. -/
structure Field (ρ : Type) where
  name : String
  read : Reader ρ

/-- How a record treats a field it does not know, and one that is missing. -/
structure Strictness where
  refusesUnknown : Bool
  requiresAll : Bool

namespace Field

variable {ρ : Type}

/-- The elements of an array, given to the fields in order. -/
def readItems (record : String) (all : Bool) : Nat → List (Field ρ) → Reader (List (String × ρ))
  | _, [], .endArray :: rest => .ok ([], rest)
  | _, [], ts => .error (endError ts)
  | n, _ :: _, .endArray :: rest =>
    if all then
      .error (.unfit ("invalid length " ++ toString n ++ ", expected struct " ++ record))
    else .ok ([], rest)
  | n, f :: fs, ts =>
    let ts :=
      match n, ts with
      | 0, ts => ts
      | _, .more :: rest => rest
      | _, ts => ts
    match f.read ts with
    | .error e => .error e
    | .ok (v, rest) =>
      match readItems record all (n + 1) fs rest with
      | .error e => .error e
      | .ok (vs, rest) => .ok ((f.name, v) :: vs, rest)

/-- The members of an object up to its end. The number bounds how many there can be. -/
def readMembers (fields : List (Field ρ)) (refuses : Bool) :
    Nat → List (String × ρ) → Reader (List (String × ρ))
  | 0, _, ts => .error (endError ts)
  | fuel + 1, read, ts =>
    match ts with
    | .endObject :: rest => .ok (read, rest)
    | .more :: rest => readMembers fields refuses fuel read rest
    | .key k :: rest =>
      let name := String.ofList k
      match fields.find? fun f => f.name == name with
      | some f =>
        if (read.lookup name).isSome then .error (.unfit ("duplicate field `" ++ name ++ "`"))
        else match f.read rest with
          | .error e => .error e
          | .ok (v, rest) => readMembers fields refuses fuel (read ++ [(name, v)]) rest
      | none =>
        if refuses then
          .error (.unfit ("unknown field `" ++ name ++ "`, expected " ++
            " or ".intercalate (fields.map fun f => "`" ++ f.name ++ "`")))
        else match skip rest with
          | .error e => .error e
          | .ok (_, rest) => readMembers fields refuses fuel read rest
    | ts => .error (endError ts)

end Field

/-- The values of a record's fields, by name, as far as they are there. -/
def record {ρ : Type} (name : String) (strictness : Strictness) (fields : List (Field ρ)) :
    Reader (List (String × ρ))
  | .beginArray :: rest => Field.readItems name strictness.requiresAll 0 fields rest
  | .beginObject :: rest =>
    match Field.readMembers fields strictness.refusesUnknown rest.length [] rest with
    | .error e => .error e
    | .ok (read, rest) =>
      match fields.find? fun f => strictness.requiresAll && (read.lookup f.name).isNone with
      | some f => .error (.unfit ("missing field `" ++ f.name ++ "`"))
      | none => .ok (read, rest)
  | ts => mismatch ("struct " ++ name) ts

/-! ## Whole documents -/

/-- Reads a document that holds one value and nothing else. -/
def run {α : Type} (r : Reader α) (document : String) : Except Error α :=
  match r (tokens document) with
  | .error e => .error e
  | .ok (a, [.done]) => .ok a
  | .ok (_, rest) => .error (endError rest)

end Reader

end Logworks.Json
