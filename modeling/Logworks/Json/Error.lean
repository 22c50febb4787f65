import Logworks.Cause

/-!
# Why a document was refused

Three causes are told apart when a document is read: the text ended inside a value, the text is
malformed, or a well-formed value does not fit the type it is read into. Only the last has a text
of its own. A document that is written can fail too, where what it is written to fails.
-/


namespace Logworks.Json

inductive Error where
  | ended
  | malformed
  | unfit (reason : String)
  | unwritten (cause : Cause)
  deriving DecidableEq, Repr

namespace Error

/-- The name of the cause. -/
def category : Error → String
  | ended => "eof"
  | malformed => "syntax"
  | unfit _ => "data"
  | unwritten _ => "io"

def message : Error → String
  | ended => "unexpected end of document"
  | malformed => "malformed document"
  | unfit reason => reason
  | unwritten cause => cause.message

end Error

end Logworks.Json
