import Logworks.Cause
import Logworks.Json.Error

/-!
# Faults

Everything that can go wrong in the pipeline, by cause, and the text each is reported with. A
fault of the configuration is told apart from one of the running system
(`Fault.isConfiguration`), and a sink that cannot be used from one that failed
(`Fault.isUnavailable`): the first was reported when it happened.
-/

namespace Logworks

inductive Fault where
  /-- An operation on a file failed while something was being done. -/
  | operation (doing message : String) (cause : Cause)
  | io (cause : Cause)
  | document (error : Json.Error)
  /-- A filter was given something that is no regular expression. -/
  | filterPattern
  | linePattern (pattern message : String)
  | queueFull (current max : Nat)
  | stopped
  | configuration (component message : String)
  | unavailable (sink : String)
  | rotation (path message : String)
  | compression (path message : String)
  | network (address message : String)
  | sinkFailures (failed total : Nat)
  | other (message : String)
  deriving DecidableEq, Repr

namespace Fault

def message : Fault → String
  | operation doing message _ => "IO error while " ++ doing ++ ": " ++ message
  | io cause => "IO error: " ++ cause.message
  | document error => "JSON error: " ++ error.message
  | filterPattern => "Invalid filter pattern"
  | linePattern pattern message => "Invalid format pattern '" ++ pattern ++ "': " ++ message
  | queueFull current max =>
    "Log queue full: " ++ toString current ++ "/" ++ toString max ++ " messages buffered"
  | stopped => "Logger already stopped"
  | configuration component message => "Invalid configuration for " ++ component ++ ": " ++ message
  | unavailable sink => "Sink '" ++ sink ++ "' is unavailable"
  | rotation path message => "File rotation failed for '" ++ path ++ "': " ++ message
  | compression path message => "Compression failed for '" ++ path ++ "': " ++ message
  | network address message => "Network error for '" ++ address ++ "': " ++ message
  | sinkFailures failed total => toString failed ++ " of " ++ toString total ++ " sinks failed"
  | other message => message

/-- The fault lies in what was asked for, not in the running system. -/
def isConfiguration : Fault → Bool
  | configuration .. | filterPattern | linePattern .. => true
  | _ => false

/-- The sink was given up earlier, and reported then. -/
def isUnavailable : Fault → Bool
  | unavailable _ => true
  | _ => false

end Fault

end Logworks
