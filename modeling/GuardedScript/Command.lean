import GuardedScript.Log
import GuardedScript.Value.Printer

/-!
# Commands

The instructions that a workspace understands. The first component names the command, and the
others are its arguments. The name of a variable may be given by any value, through its
display form, so that the number `3` and the string `"3"` name the same variable.
-/

namespace GuardedScript

/-- An instruction that a workspace understands. -/
inductive Command
  /-- Bind a variable. -/
  | set (name : String) (value : Value)
  /-- Remove a variable. -/
  | unset (name : String)
  /-- Write a line. -/
  | echo (line : String)
  /-- Compare two values. -/
  | eq (a b : Value)
  /-- Compare two values, for difference. -/
  | ne (a b : Value)
  /-- Negate a value. -/
  | not (v : Value)
  /-- Ask whether a variable is bound. -/
  | defined (name : String)
  /-- Give a fixed truth value. -/
  | const (b : Bool)
  /-- Stop the script. -/
  | abort

/-- Why an instruction is no command. -/
inductive Misuse
  /-- It has no components. -/
  | empty
  /-- Its first component is no string. -/
  | nameless (head : Value)
  /-- The command does not take that many arguments. -/
  | arity (name : String) (count : Nat)
  /-- There is no command of that name. -/
  | unknown (name : String)

namespace Misuse

/-- What is said about the misuse, if anything. -/
def message? : Misuse → Option String
  | empty => none
  | nameless head => some ("command name must be a string, got " ++ head.toText)
  | arity name count => some s!"{name}: wrong number of arguments ({count})"
  | unknown name => some ("unknown command: " ++ name)

/-- What is logged about the misuse. -/
def log (m : Misuse) : List Log.Entry :=
  m.message?.toList.map fun message => ⟨.warn, .commands, message⟩

end Misuse

namespace Command

/-- The names of the commands that take a fixed number of arguments. -/
def fixedNames : List String :=
  ["set", "unset", "eq", "ne", "not", "defined", "true", "false", "abort"]

/-- The line that arguments make: their display forms, with a space between them. -/
def lineOf (args : List Value) : String :=
  " ".intercalate (args.map Value.display)

/-- The command of a name and its arguments. -/
def ofNamed (name : String) (args : List Value) : Except Misuse Command :=
  match name, args with
  | "set", [n, v] => .ok (set n.display v)
  | "unset", [n] => .ok (unset n.display)
  | "echo", args => .ok (echo (lineOf args))
  | "eq", [a, b] => .ok (eq a b)
  | "ne", [a, b] => .ok (ne a b)
  | "not", [v] => .ok (not v)
  | "defined", [n] => .ok (defined n.display)
  | "true", [] => .ok (const true)
  | "false", [] => .ok (const false)
  | "abort", [] => .ok abort
  | name, args =>
    .error (if name ∈ fixedNames then .arity name args.length else .unknown name)

/-- The command of an instruction. -/
def ofComponents : List Value → Except Misuse Command
  | [] => .error .empty
  | .str name :: args => ofNamed name args
  | head :: _ => .error (.nameless head)

end Command

end GuardedScript
