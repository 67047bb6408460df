import GuardedScript.Value.Printer

/-!
# Transcripts

A transcript lists the instructions that were executed, each with its result. It is written as
an indented JSON array of objects.
-/

namespace GuardedScript.Transcript

/-- An executed instruction: its components, its result, and whether it stopped the script. -/
structure Entry where
  components : List Value
  result : Value
  aborted : Bool

/-- An entry as an object, with its members in the order in which they are written. -/
def Entry.toValue (e : Entry) : Value :=
  .obj [("components", .arr e.components), ("result", e.result), ("aborted", .bool e.aborted)]

/-- A transcript as a value. -/
def toValue (entries : List Entry) : Value :=
  .arr (entries.map Entry.toValue)

/-- The text of a transcript. -/
def write (entries : List Entry) : List Char :=
  (toValue entries).indented 0

end GuardedScript.Transcript
