/-!
# Tokens

What the characters of a script mean to its instructions: the components of an instruction,
its end, and the blocks that begin and end. Where a comment begins is a token too, because an
instruction must not be under way there.
-/

namespace GuardedScript

/-- The quotes around a literal. A literal ends with the quote with which it began. -/
inductive Quote
  | double
  | single
deriving DecidableEq, Repr

/-- The character of a quote. -/
def Quote.char : Quote → Char
  | double => '"'
  | single => '\''

/-- A piece of a script that is complete. -/
inductive Token
  /-- A component written as a bare word. -/
  | word (text : String)
  /-- A component written between quotes. -/
  | literal (text : String)
  /-- A component that is the value of a variable. -/
  | reference (name : String)
  /-- The end of an instruction. -/
  | stop
  /-- The beginning of a block. -/
  | enter
  /-- The end of a block. -/
  | leave
  /-- The beginning of a comment. -/
  | comment
deriving DecidableEq, Repr

end GuardedScript
