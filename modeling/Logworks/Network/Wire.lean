import Logworks.Level
import Logworks.Fault
import Logworks.Text.Escape

/-!
# The network line

A record travels as one line: the logger's name in brackets, the level's ordinal, the message
made fit for a line. The name is written as it is. Addresses are checked before anything is
connected: a host and a port of sixteen bits, separated by the last colon.
-/

namespace Logworks.Network

/-- The line of a record, with the line feed that ends it. -/
def encodeLine (logger : String) (level : Level) (message : String) : List Char :=
  '[' :: logger.toList ++ "] ".toList ++ Nat.toDigits 10 level.ordinal ++ ": ".toList ++
    Text.lineText message ++ ['\n']

/-! ## Addresses -/

/-- A text split at its last colon. -/
def splitLastColon? : List Char → Option (List Char × List Char)
  | [] => none
  | c :: cs =>
    match splitLastColon? cs with
    | some (a, b) => some (c :: a, b)
    | none => if c = ':' then some ([], cs) else none

/-- A port number: decimal digits, perhaps after a plus sign, of a value below 65536. -/
def portNumber? (cs : List Char) : Option Nat :=
  let digits := match cs with
    | '+' :: rest => rest
    | _ => cs
  if digits.isEmpty || !digits.all Char.isDigit then none
  else
    let n := digits.foldl (fun n c => 10 * n + (c.toNat - 48)) 0
    if n < 65536 then some n else none

/-- A host and a port. -/
structure Address where
  host : List Char
  port : Nat
  deriving DecidableEq, Repr

def Address.parse (address : String) : Except Fault Address :=
  match splitLastColon? address.toList with
  | none => .error (.configuration "network" ("host:port expected, got '" ++ address ++ "'"))
  | some ([], _) => .error (.configuration "network" ("missing host in '" ++ address ++ "'"))
  | some (host, portText) =>
    match portNumber? portText with
    | none => .error (.configuration "network" ("invalid port in '" ++ address ++ "'"))
    | some port => .ok ⟨host, port⟩

end Logworks.Network
