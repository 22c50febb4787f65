import Logworks.Fields
import Logworks.Config

/-!
# Records

What is known of one event: which logger, at which level, with which message and fields, and when.
A record is made once and not changed.
-/

namespace Logworks

open Logworks.Json

structure Record where
  logger : String
  level : Level
  message : String
  fields : Fields := {}
  time : Time.Instant := ⟨0, 0⟩
  deriving DecidableEq, Repr

namespace Record

def parts (r : Record) : Line.Parts := ⟨r.time, r.logger, r.level, r.message⟩

/-- The members of a record's document apart from the time; fields are left out if there are
none. -/
def members (r : Record) : List (String × Value) :=
  [("logger_name", .text r.logger), ("level", r.level.toValue), ("message", .text r.message)] ++
    if r.fields.isEmpty then []
    else [("fields", .object (r.fields.pairs.map fun p => (p.1, .text p.2)))]

end Record

end Logworks
