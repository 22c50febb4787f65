import Logworks.Fanout.Round

/-!
# Trees of sinks

A sink may stand for several: what it is asked it asks each of its children, in order, whatever
the others did. A child that fails or crashes is reported; one that was given up earlier is only
counted. This file fixes

* `SinkTree` -- leaves, and branches with a threshold of their own;
* `SinkTree.round` -- the calls that a call on the root leads to.
-/

namespace Logworks.Fanout

/-- A sink as seen from whoever calls it. -/
inductive SinkTree (ι : Type) where
  | leaf (name : String) (sink : ι)
  | branch (threshold : Level) (children : List (SinkTree ι))

namespace SinkTree

variable {ι : Type}

/-- The name a branch is known by. -/
def branchName : String := "multi"

def name : SinkTree ι → String
  | leaf n _ => n
  | branch .. => branchName

end SinkTree

/-- What a call is called in a report. -/
def Call.verb : Call → String
  | log .. => "log"
  | flush => "flush"

/-- A threshold lets a flush through, and a record by its level. -/
def Call.passes (threshold : Level) : Call → Bool
  | log _ level _ => threshold.admits level
  | flush => true

/-- What a branch says about a child. -/
def branchReport (child : String) (c : Call) : Outcome → List Event
  | .ok => []
  | .failed f =>
    if f.isUnavailable then []
    else [.notice (.error
      ("Sink '" ++ child ++ "' " ++ c.verb ++ " failed: " ++ f.message))]
  | .crashed p =>
    [.notice (.critical
      ("Sink '" ++ child ++ "' panicked during " ++ c.verb ++ ": " ++ p.message))]

/-- What a branch answers: it fails if a child did. -/
def branchOutcome (failed total : Nat) : Outcome :=
  if failed = 0 then .ok else .failed (.sinkFailures failed total)

namespace SinkTree

variable {ι : Type}

mutual
/-- The round of one call. -/
def round (c : Call) : SinkTree ι → Round ι Outcome
  | leaf _ i => .call i c .done
  | branch threshold children =>
    if c.passes threshold then
      (roundAll c children).bind fun failed => .done (branchOutcome failed children.length)
    else .done .ok

/-- The rounds of all children, one after the other, and how many of them failed. -/
def roundAll (c : Call) : List (SinkTree ι) → Round ι Nat
  | [] => .done 0
  | t :: ts =>
    (round c t).bind fun o =>
      .events (branchReport t.name c o)
        ((roundAll c ts).bind fun failed => .done (o.failures + failed))
end

end SinkTree

end Logworks.Fanout
