/-!
# The log

A run tells what it does in a log: a list of entries, each with a level, the part of the
program it comes from and a message.
-/

namespace GuardedScript.Log

/-- How much an entry matters. -/
inductive Level
  | debug
  | info
  | warn
  | error
deriving DecidableEq, Repr

/-- The part of the program an entry comes from. -/
inductive Source
  /-- The command-line tool. -/
  | tool
  /-- Handing instructions to the host. -/
  | dispatch
  /-- Entering and leaving blocks. -/
  | blocks
  /-- The commands of a workspace. -/
  | commands
deriving DecidableEq, Repr

/-- A message with its level and its source. -/
structure Entry where
  level : Level
  source : Source
  message : String
deriving DecidableEq, Repr

/-- The name of a level. -/
def Level.name : Level → String
  | debug => "DEBUG"
  | info => "INFO"
  | warn => "WARN"
  | error => "ERROR"

/-- The target under which a source is logged. -/
def Source.target : Source → String
  | tool => "gscript"
  | dispatch => "gscript::processor::dispatch"
  | blocks => "gscript::processor::context"
  | commands => "gscript::processor::basic"

/-- An entry on one line. -/
def Entry.render (e : Entry) : String :=
  e.level.name ++ " " ++ e.source.target ++ ": " ++ e.message

end GuardedScript.Log
