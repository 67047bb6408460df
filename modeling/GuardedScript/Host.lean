import GuardedScript.Log
import GuardedScript.Value.Basic

/-!
# Hosts

A script decides nothing itself: it looks variables up and hands instructions over, and a
*host* answers. A host is given by what it does on a state of any type.
-/

namespace GuardedScript

/-- The answer of a host to an instruction: a result, whether the script should stop, and
what the host wrote to the log. -/
structure Reply where
  result : Value
  abort : Bool := false
  notes : List Log.Entry := []

/-- What runs the instructions of a script, on states of type `σ`. -/
structure Host (σ : Type u) where
  /-- The state in which a run begins. -/
  reset : σ → σ
  /-- The value of a variable. -/
  lookup : σ → String → Option Value
  /-- The reply to an instruction, and the state after it. -/
  execute : σ → List Value → Reply × σ

end GuardedScript
