/-!
Why loading gives no answer: it breaks off, or the text of a file is no document of its format.
-/

namespace CustomerNotice

/-- A position outside a list, a real number that cannot be read, or a variable that is not a
text. -/
inductive Crash
  | positionOutOfRange
  | unreadableNumber
  | undecodableVariable
  deriving DecidableEq, Repr

inductive FormatError
  | malformed
  | documentCount (count : Nat)
  deriving DecidableEq, Repr

namespace FormatError

def text : FormatError → String
  | malformed => "malformed document"
  | documentCount count => "Got " ++ count.repr ++ " YAML documents, expected 1"

end FormatError

inductive FormatFailure
  | rejected (error : FormatError)
  | crashed (crash : Crash)
  deriving DecidableEq, Repr

namespace FormatFailure

/-- Requires a result of a reader that does not say why it has none. -/
def require {Value : Type} : Option Value → Except FormatFailure Value
  | some value => .ok value
  | none => .error (.rejected .malformed)

end FormatFailure
end CustomerNotice
