/-!
# Faults of JSON texts

A text that is no JSON document either ends too early, so that a longer text could still be
one, or is already wrong at some character.
-/

namespace GuardedScript.Value

/-- Why a text is no JSON document. -/
inductive Fault
  /-- Some character cannot stand where it stands. -/
  | malformed
  /-- The text ends where more of it is needed. -/
  | incomplete
deriving DecidableEq, Repr

/-- The name of a fault in messages. -/
def Fault.label : Fault → String
  | malformed => "<json:syntax>"
  | incomplete => "<json:eof>"

end GuardedScript.Value
