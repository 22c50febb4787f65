import Logworks.Number.Decimal

/-!
# Documents

The values a document is made of, with the members of an object in the order they were put in,
and the two ways to write one: without a blank, and spread over lines with two blanks a level.
A number that is not finite is written as `null`.
-/

namespace Logworks.Json

open Logworks.Text Logworks.Number

inductive Value where
  | null
  | bool (b : Bool)
  | whole (z : Int)
  | double (x : Binary64)
  | text (s : String)
  | array (items : List Value)
  | object (members : List (String × Value))
  deriving Repr, Inhabited

/-! ## Texts -/

/-- One character of a text in a document. -/
def escapeChar (c : Char) : List Char :=
  match c with
  | '"' => ['\\', '"']
  | '\\' => ['\\', '\\']
  | '\n' => ['\\', 'n']
  | '\r' => ['\\', 'r']
  | '\t' => ['\\', 't']
  | '\x08' => ['\\', 'b']
  | '\x0c' => ['\\', 'f']
  | c =>
    if c.toNat < 0x20 then ['\\', 'u', '0', '0', Nat.digitChar (c.toNat / 16),
      Nat.digitChar (c.toNat % 16)]
    else [c]

/-- A text between quotes, its quotes, backslashes and control characters escaped. -/
def textLiteral (s : String) : List Char :=
  '"' :: s.toList.flatMap escapeChar ++ ['"']

/-! ## Writing -/

namespace Value

/-- A number with its sign. -/
def wholeLiteral (z : Int) : List Char := signed .none false 0 z

def doubleLiteral (x : Binary64) : List Char := x.documentText?.getD "null".toList

mutual
/-- A document without a blank. -/
def compact : Value → List Char
  | null => "null".toList
  | bool b => if b then "true".toList else "false".toList
  | whole z => wholeLiteral z
  | double x => doubleLiteral x
  | text s => textLiteral s
  | array items => '[' :: compactItems items ++ [']']
  | object members => '\x7b' :: compactMembers members ++ ['\x7d']

def compactItems : List Value → List Char
  | [] => []
  | [v] => compact v
  | v :: vs => compact v ++ ',' :: compactItems vs

def compactMembers : List (String × Value) → List Char
  | [] => []
  | [(k, v)] => textLiteral k ++ ':' :: compact v
  | (k, v) :: ms => textLiteral k ++ ':' :: compact v ++ ',' :: compactMembers ms
end

/-- A line break and the blanks of a level. -/
def newLine (depth : Nat) : List Char := '\n' :: List.replicate (2 * depth) ' '

mutual
/-- A document over lines, one item or member each, from a level on. -/
def pretty (depth : Nat) : Value → List Char
  | array [] => "[]".toList
  | array items => '[' :: prettyItems (depth + 1) items ++ newLine depth ++ [']']
  | object [] => ['\x7b', '\x7d']
  | object members =>
    '\x7b' :: prettyMembers (depth + 1) members ++ newLine depth ++ ['\x7d']
  | v => compact v

def prettyItems (depth : Nat) : List Value → List Char
  | [] => []
  | [v] => newLine depth ++ pretty depth v
  | v :: vs => newLine depth ++ pretty depth v ++ ',' :: prettyItems depth vs

def prettyMembers (depth : Nat) : List (String × Value) → List Char
  | [] => []
  | [(k, v)] => newLine depth ++ textLiteral k ++ ": ".toList ++ pretty depth v
  | (k, v) :: ms =>
    newLine depth ++ textLiteral k ++ ": ".toList ++ pretty depth v ++
      ',' :: prettyMembers depth ms
end

def render (v : Value) : String := String.ofList v.compact

def renderPretty (v : Value) : String := String.ofList (v.pretty 0)

end Value

end Logworks.Json
