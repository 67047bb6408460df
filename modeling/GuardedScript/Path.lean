/-!
# Paths

A path leads step by step from one directory to another place. Slashes divide its text into
steps: a name goes down to what has that name, one dot stays, and two dots go up. A path that
begins with a slash starts at the root; one that ends with a slash asks for a directory.

A *location* is the list of the names on the way down from the root. The root is its own
parent.
-/

namespace GuardedScript

/-- The names on the way down from the root. -/
abbrev Location := List String

/-- A step of a path. -/
inductive Path.Step
  /-- Down, to what has the name. -/
  | name (text : String)
  /-- Nowhere. -/
  | stay
  /-- To the directory above. -/
  | up
deriving DecidableEq, Repr

/-- The steps of a path, and what stands at its two ends. -/
structure Path where
  /-- The path begins with a slash. -/
  rooted : Bool
  steps : List Path.Step
  /-- The path ends with a slash. -/
  closed : Bool
deriving DecidableEq, Repr

namespace Path

/-- The step that a text between two slashes asks for. -/
def Step.ofString (text : String) : Step :=
  if text = "." then stay else if text = ".." then up else name text

/-- The location after a step. -/
def Step.after (location : Location) : Step → Location
  | name text => location ++ [text]
  | stay => location
  | up => location.dropLast

/-- The path that a text describes. Several slashes are as good as one. -/
def ofString (text : String) : Path where
  rooted := text.toList.head? = some '/'
  steps := ((text.toList.splitOn '/').filter (· ≠ [])).map fun part =>
    Step.ofString (String.ofList part)
  closed := text.toList.getLast? = some '/'

/-- Where the path starts, for someone who stands at a location. -/
def start (p : Path) (home : Location) : Location :=
  if p.rooted then [] else home

/-- Where the path ends, if there is nothing in its way. -/
def target (p : Path) (home : Location) : Location :=
  p.steps.foldl Step.after (p.start home)

/-- The steps to what is read: a slash at the end makes one more step, which only a directory
allows. -/
def stepsToRead (p : Path) : List Step :=
  if p.closed then p.steps ++ [.stay] else p.steps

/-- The steps to the directory in which the path ends. -/
def stepsToParent (p : Path) : List Step :=
  p.steps.dropLast ++ [.stay]

end Path

end GuardedScript
