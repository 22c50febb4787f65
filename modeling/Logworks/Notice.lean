/-!
# Notices

A pipeline cannot report its own failures through itself. What goes wrong inside it is said on the
error stream, one line each, with a mark in front that tells how bad it is.
-/

namespace Logworks

inductive Severity where
  | error | warning | critical
  deriving DecidableEq, Repr

namespace Severity

def mark : Severity → String
  | error => "[LOGGER ERROR] "
  | warning => "[LOGGER WARNING] "
  | critical => "[LOGGER CRITICAL] "

end Severity

structure Notice where
  severity : Severity
  words : String
  deriving DecidableEq, Repr

namespace Notice

def error (words : String) : Notice := ⟨.error, words⟩
def warning (words : String) : Notice := ⟨.warning, words⟩
def critical (words : String) : Notice := ⟨.critical, words⟩

def line (n : Notice) : String := n.severity.mark ++ n.words

end Notice

end Logworks
