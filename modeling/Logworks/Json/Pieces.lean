import Logworks.Json.Value

/-!
# Documents in pieces

A document of texts written piece by piece: marks, runs of plain characters, and escaped
characters are a piece each. Put together the pieces are the document (`flatten_objectPieces`);
where the cuts are shows only to a reader of what has been written so far.
-/

namespace Logworks.Json

def isPlain (c : Char) : Bool := escapeChar c == [c]

/-- A plain character before some pieces; it joins the first one if that is a run. -/
def joinRun (c : Char) (isRun : Bool) : List (List Char) → List (List Char)
  | [] => [[c]]
  | r :: rs => if isRun then (c :: r) :: rs else [c] :: r :: rs

/-- The runs of plain characters of a text, and its escaped ones between them. -/
def runs : List Char → List (List Char)
  | [] => []
  | c :: cs =>
    if isPlain c then joinRun c (cs.head?.any isPlain) (runs cs)
    else escapeChar c :: runs cs

theorem flatten_joinRun (c : Char) (isRun : Bool) (ps : List (List Char)) :
    (joinRun c isRun ps).flatten = c :: ps.flatten := by
  cases ps with
  | nil => rfl
  | cons r rs => cases isRun <;> simp [joinRun]

theorem flatten_runs (cs : List Char) : (runs cs).flatten = cs.flatMap escapeChar := by
  induction cs with
  | nil => rfl
  | cons c cs ih =>
    by_cases h : isPlain c
    · simp [runs, h, flatten_joinRun, ih, eq_of_beq h]
    · simp [runs, h, ih]

def textPieces (s : String) : List (List Char) := ['"'] :: runs s.toList ++ [['"']]

theorem flatten_textPieces (s : String) : (textPieces s).flatten = textLiteral s := by
  simp [textPieces, textLiteral, flatten_runs]

/-- A member with a text for its value. -/
def memberPieces (m : String × String) : List (List Char) :=
  textPieces m.1 ++ [':'] :: textPieces m.2

def membersPieces : List (String × String) → List (List Char)
  | [] => []
  | [m] => memberPieces m
  | m :: ms => memberPieces m ++ [','] :: membersPieces ms

def objectPieces (ms : List (String × String)) : List (List Char) :=
  ['\x7b'] :: membersPieces ms ++ [['\x7d']]

/-- The document the pieces belong to. -/
def textObject (ms : List (String × String)) : Value :=
  .object (ms.map fun m => (m.1, .text m.2))

theorem flatten_membersPieces (ms : List (String × String)) :
    (membersPieces ms).flatten = Value.compactMembers (ms.map fun m => (m.1, .text m.2)) := by
  induction ms with
  | nil => rfl
  | cons m ms ih =>
    cases ms with
    | nil => simp [membersPieces, memberPieces, flatten_textPieces, Value.compactMembers,
        Value.compact]
    | cons n ms =>
      simp only [membersPieces, List.flatten_append, List.flatten_cons, ih]
      simp [memberPieces, flatten_textPieces, Value.compactMembers, Value.compact]

theorem flatten_objectPieces (ms : List (String × String)) :
    (objectPieces ms).flatten = (textObject ms).compact := by
  simp [objectPieces, flatten_membersPieces, textObject, Value.compact]

end Logworks.Json
