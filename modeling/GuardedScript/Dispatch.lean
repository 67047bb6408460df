import GuardedScript.Host
import GuardedScript.Value.Printer

/-!
# Dispatching instructions

When an instruction ends, its components are handed to the host, unless the block around it
is inactive. An instruction that *guards* a block decides whether that block is active: it is
when the host's result counts as true. A host that asks for the script to stop at a guard only
makes the block inactive; at any other instruction it stops the script.
-/

namespace GuardedScript

/-- What became of an instruction that has ended. -/
inductive Dispatch
  /-- It had no components. -/
  | blank
  /-- The block around it is inactive, so the host never saw it. -/
  | skipped (components : List Value)
  /-- The host executed it, as a guard or not, and replied. -/
  | called (components : List Value) (guard : Bool) (reply : Reply)

namespace Dispatch

/-- A block guarded by the instruction is active. -/
def truthy : Dispatch → Bool
  | blank => false
  | skipped _ => false
  | called _ _ reply => !reply.abort && reply.result.truthy

/-- The script stops. -/
def aborts : Dispatch → Bool
  | blank => false
  | skipped _ => false
  | called _ guard reply => !guard && reply.abort

/-- The components of the instruction. -/
def components : Dispatch → List Value
  | blank => []
  | skipped components => components
  | called components _ _ => components

/-- An entry about an instruction. -/
def entry (level : Log.Level) (message : String) : Log.Entry :=
  ⟨level, .dispatch, message⟩

/-- An entry that shows the components of an instruction. -/
def shown (label : String) (components : List Value) : Log.Entry :=
  entry .debug ("GScript " ++ label ++ ": " ++ (Value.arr components).toText)

/-- What is logged when a host asks for the script to stop. -/
def abortNote (guard : Bool) : Log.Entry :=
  if guard then entry .debug "GScript: conditional abort, ignoring the block"
  else entry .warn "GScript: Abort script execution"

/-- What is logged about the instruction. What the host logs stands between the instruction
and its result. -/
def log : Dispatch → List Log.Entry
  | blank => [entry .debug "GScript: EXEC_NOOP_BLANK"]
  | skipped components => [shown "EXEC/SKIP" components]
  | called components guard reply =>
    shown (if guard then "EXEC/CONDITIONAL" else "EXEC") components ::
      (reply.notes ++ entry .debug (" RET --> " ++ reply.result.toText) ::
        if reply.abort then [abortNote guard] else [])

end Dispatch

/-- An instruction ends: what becomes of it, and the state of the host after it. -/
def Host.dispatch {σ : Type u} (h : Host σ) (s : σ) (active guard : Bool)
    (components : List Value) : Dispatch × σ :=
  if components.isEmpty then (.blank, s)
  else if active then
    let (reply, next) := h.execute s components
    (.called components guard reply, next)
  else (.skipped components, s)

/-- The components of an instruction are kept, whatever becomes of it. -/
theorem Host.components_dispatch {σ : Type u} (h : Host σ) (s : σ) (active guard : Bool)
    (components : List Value) :
  (h.dispatch s active guard components).1.components = components
  := by
  rw [dispatch]
  split
  · rename_i hempty
    rw [List.isEmpty_iff.mp hempty]
    rfl
  · split <;> rfl

end GuardedScript
