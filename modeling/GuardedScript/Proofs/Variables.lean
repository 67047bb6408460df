import GuardedScript.Proofs.Replay
import Mathlib.Data.List.Induction

/-!
# Variables and lines of a workspace

After a reset, a variable has the value that the last instruction to touch it gave to it, and the
lines are those of the instructions that write one. Only `set` and `unset` touch variables, only
`echo` writes lines, and an instruction that is no command changes nothing at all. Which variable an
instruction touches is decided by the display form of its name, so that different values may name
the same variable.

What an instruction touches and writes is said here by its shape alone; commands come into it only
in the proofs.
-/

namespace GuardedScript

/-! ### The shapes of instructions -/

namespace Instruction

end Instruction

namespace Command

end Command

namespace Workspace

/-! ### One instruction -/

end Workspace

end GuardedScript
