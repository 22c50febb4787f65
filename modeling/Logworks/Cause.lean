/-!
# Why a file or socket operation failed

The causes a system call reports, each with its number and its text, and free-standing texts for
causes that no system call gave.
-/

namespace Logworks

/-- Causes a system call reports. -/
inductive SystemCause where
  | notPermitted
  | notFound
  | busy
  | alreadyThere
  | notADirectory
  | isADirectory
  | invalidArgument
  | noSpaceLeft
  | tooManyLinks
  | nameTooLong
  | notEmpty
  | brokenPipe
  | networkUnreachable
  | connectionReset
  | connectionRefused
  deriving DecidableEq, Repr

namespace SystemCause

def number : SystemCause → Nat
  | notPermitted => 13
  | notFound => 2
  | busy => 16
  | alreadyThere => 17
  | notADirectory => 20
  | isADirectory => 21
  | invalidArgument => 22
  | noSpaceLeft => 28
  | tooManyLinks => 40
  | nameTooLong => 36
  | notEmpty => 39
  | brokenPipe => 32
  | networkUnreachable => 101
  | connectionReset => 104
  | connectionRefused => 111

def words : SystemCause → String
  | notPermitted => "Permission denied"
  | notFound => "No such file or directory"
  | busy => "Device or resource busy"
  | alreadyThere => "File exists"
  | notADirectory => "Not a directory"
  | isADirectory => "Is a directory"
  | invalidArgument => "Invalid argument"
  | noSpaceLeft => "No space left on device"
  | tooManyLinks => "Too many levels of symbolic links"
  | nameTooLong => "File name too long"
  | notEmpty => "Directory not empty"
  | brokenPipe => "Broken pipe"
  | networkUnreachable => "Network is unreachable"
  | connectionReset => "Connection reset by peer"
  | connectionRefused => "Connection refused"

end SystemCause

/-- Why an operation on a file or socket failed. -/
inductive Cause where
  | system (c : SystemCause)
  | text (words : String)
  deriving DecidableEq, Repr

namespace Cause

/-- A system's cause is shown with its number. -/
def message : Cause → String
  | system c => c.words ++ " (os error " ++ toString c.number ++ ")"
  | text words => words

end Cause

end Logworks
