import GuardedScript.Workspace

/-!
# Histories of a workspace

Everything that can be done to a workspace, in any order and any number of times.
-/

namespace GuardedScript

/-- Something that is done to a workspace. -/
inductive Operation
  /-- An instruction is executed. -/
  | execute (components : List Value)
  /-- A variable is looked up. -/
  | lookup (name : String)
  /-- The workspace is reset. -/
  | reset
  /-- A script is run, after a reset. -/
  | run (script : String)
  /-- A text is scanned as it is, without a reset. -/
  | scan (text : String)
deriving Inhabited

namespace Workspace

/-- The workspace after an operation. -/
def apply (w : Workspace) : Operation → Workspace
  | .execute components => (w.execute components).2
  | .lookup _ => w
  | .reset => w.reset
  | .run script => (host.run w script).state
  | .scan text => (host.scan w text).state

/-- The workspace after a history. -/
def applyAll (w : Workspace) (history : List Operation) : Workspace :=
  history.foldl apply w

@[simp]
theorem applyAll_nil (w : Workspace) :
  w.applyAll [] = w
  := by
  rfl

@[simp]
theorem applyAll_cons (w : Workspace) (first : Operation) (rest : List Operation) :
  w.applyAll (first :: rest) = (w.apply first).applyAll rest
  := by
  rfl

end Workspace

end GuardedScript
