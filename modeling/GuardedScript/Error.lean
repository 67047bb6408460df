import GuardedScript.Position

/-!
# Errors in scripts

A script fails in one of two ways: its text is *malformed* at some position, or it refers to
a variable that is *undefined*. Either ends the run. A host that asks for the script to stop
is no error.
-/

namespace GuardedScript

/-- What is wrong with the text of a script. -/
inductive Malformation
  /-- A comment begins inside an instruction. -/
  | commentInInstruction
  /-- A block begins without an instruction to guard it. -/
  | blockWithoutGuard
  /-- A block ends, but none is open. -/
  | closeWithoutBlock
  /-- A variable begins inside a word. -/
  | variableInWord
  /-- The text ends inside a literal. -/
  | unterminatedLiteral
  /-- The text ends inside an instruction. -/
  | unterminatedInstruction
deriving DecidableEq, Repr

/-- What is wrong, in words. -/
def Malformation.message : Malformation → String
  | commentInInstruction => "unexpected \"#\": cannot start a comment within an instruction"
  | blockWithoutGuard => "unexpected \"\x7b\": no preceding conditional statement"
  | closeWithoutBlock => "unexpected \"\x7d\": not in a context block"
  | variableInWord => "unexpected variable reference in the middle of a token"
  | unterminatedLiteral =>
    "unexpected end of script: unterminated string literal (missing closing quote?)"
  | unterminatedInstruction =>
    "unexpected end of script: unterminated instruction (missing \";\"?)"

/-- Why a run failed, and where. -/
inductive ScriptError
  /-- The text is malformed. -/
  | malformed (kind : Malformation) (place : Position)
  /-- A variable is not defined; the place is where its name ends. -/
  | undefined (name : String) (place : Position)
deriving DecidableEq, Repr

namespace ScriptError

/-- Where the run failed. -/
def place : ScriptError → Position
  | malformed _ p => p
  | undefined _ p => p

/-- What is wrong with the text, if that is why the run failed. -/
def malformation? : ScriptError → Option Malformation
  | malformed kind _ => some kind
  | undefined _ _ => none

/-- The error in words, with its place. -/
def message : ScriptError → String
  | malformed kind p =>
    s!"Syntax error at line {p.line}, column {p.column}: {kind.message}"
  | undefined name p =>
    s!"Reference error at line {p.line}, column {p.column}: variable ${name} is not defined"

end ScriptError

/-- How a run without an error ends. -/
inductive Outcome
  /-- The whole text has been read. -/
  | completed
  /-- The host asked for the script to stop. -/
  | aborted
deriving DecidableEq, Repr

end GuardedScript
