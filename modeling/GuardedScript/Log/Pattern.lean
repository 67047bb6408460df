import GuardedScript.Log.Pattern.Class

/-!
# Patterns

A directive may ask for the value of a field by a regular expression. No entry has such a value,
so all that matters of a pattern is whether it is well formed, which this module decides: its
brackets close, there is something before each mark of repetition, its items may stand where they
do, and it is not too deep.

Counted repetition is written with braces. Since a brace ends the field, no pattern has a whole
one, and one that is begun is refused.
-/

namespace GuardedScript.Log.Pattern

/-! ### Flags -/

/-- The mode after a flag, which is set or taken back. Flags that do not matter for the form of
a pattern change nothing. -/
def Mode.withFlag (m : Mode) (set : Bool) : Char → Mode
  | 'u' => { m with unicode := set }
  | 'i' => { m with anyCase := set }
  | 'x' => { m with spaced := set }
  | _ => m

/-- The mode after flags. Those after a minus sign are taken back. -/
def Mode.withFlags (m : Mode) (flags : List Char) : Mode :=
  let set := flags.takeWhile (· ≠ '-')
  let unset := flags.dropWhile (· ≠ '-')
  unset.foldl (·.withFlag false) (set.foldl (·.withFlag true) m)

/-- The flags may stand together: each at most once, and some after a minus sign. -/
def areFlags (flags : List Char) : Bool :=
  flags.all ['i', 'm', 's', 'U', 'u', 'R', 'x', '-'].contains && flags.eraseDups = flags &&
    flags.getLast? ≠ some '-'

/-! ### Groups -/

/-- A pattern or a group up to some place: the depths of its alternatives before the last, and
those of the parts of the last, latest first. -/
structure Branches where
  before : List Nat := []
  parts : List Nat := []

namespace Branches

/-- One more part. -/
def push (b : Branches) (depth : Nat) : Branches :=
  { b with parts := depth :: b.parts }

/-- The last part is repeated. -/
def repeatLast (b : Branches) : Branches :=
  match b.parts with
  | [] => b
  | depth :: rest => { b with parts := (depth + 1) :: rest }

/-- Another alternative begins. -/
def split (b : Branches) : Branches :=
  ⟨depthOf b.parts :: b.before, []⟩

/-- The depth of all alternatives. -/
def depth (b : Branches) : Nat :=
  depthOf b.split.before

end Branches

/-- How far a pattern has been read. -/
structure Spot where
  /-- What stands before the groups that are open, and the mode there, the innermost first. -/
  outer : List (Branches × Mode) := []
  branches : Branches := {}
  mode : Mode := {}
  /-- What was read last can be repeated. -/
  operand : Bool := false
  /-- The names of the groups so far. -/
  names : List (List Char) := []

namespace Spot

/-- A part has been read that can be repeated. -/
def push (s : Spot) (depth : Nat) : Spot :=
  { s with branches := s.branches.push depth, operand := true }

/-- A group begins. -/
def enter (s : Spot) (mode : Mode) : Spot :=
  { s with outer := (s.branches, s.mode) :: s.outer, branches := {}, mode, operand := false }

/-- A group ends. -/
def leave? (s : Spot) : Option Spot :=
  match s.outer with
  | [] => none
  | (branches, mode) :: outer =>
    some ({ s with outer, branches, mode }.push (s.branches.depth + 1))

/-- The text is the name of a group: it begins with a letter or a low line, and the characters
after that may also be numbers, dots and brackets. -/
def isName : List Char → Bool
  | [] => false
  | c :: rest =>
    (c = '_' || Text.isLetter c) &&
      rest.all fun c => ['_', '.', '[', ']'].contains c || Text.isLetterOrNumber c

/-- A group with a name begins, at the name. No two groups share one. -/
def enterNamed? (s : Spot) (text : List Char) : Option (Spot × List Char) :=
  let name := text.takeWhile (· ≠ '>')
  match text.dropWhile (· ≠ '>') with
  | _ :: rest =>
    if isName name && !s.names.contains name then
      some ({ s.enter s.mode with names := name :: s.names }, rest)
    else none
  | [] => none

/-- Flags are set, up to the end of the group around them or for a group of their own. -/
def enterFlags? (s : Spot) (text : List Char) : Option (Spot × List Char) :=
  let isEnd := fun c => c = ':' || c = ')'
  let flags := text.takeWhile (!isEnd ·)
  if !areFlags flags then none else
    match text.dropWhile (!isEnd ·) with
    | ':' :: rest => some (s.enter (s.mode.withFlags flags), rest)
    | ')' :: rest =>
      if flags.isEmpty then none
      else some ({ s.push 0 with mode := s.mode.withFlags flags, operand := false }, rest)
    | _ => none

/-- A group begins, after its bracket. -/
def group? (s : Spot) (text : List Char) : Option (Spot × List Char) :=
  match s.mode.skip text with
  | '?' :: 'P' :: '<' :: rest => s.enterNamed? rest
  | '?' :: '<' :: rest => s.enterNamed? rest
  | '?' :: rest => s.enterFlags? rest
  | rest => some (s.enter s.mode, rest)

/-! ### Whole patterns -/

/-- What was read last is repeated, as often as possible or, before a question mark, as seldom
as possible. -/
def repeat? (s : Spot) (rest : List Char) : Option (Spot × List Char) :=
  if s.operand then
    some ({ s with branches := s.branches.repeatLast },
      if rest.head? = some '?' then rest.tail else rest)
  else none

/-- An item is read, if the mode allows it. -/
def pushItem? (s : Spot) : Option (Item × List Char) → Option (Spot × List Char)
  | some (item, rest) => if s.mode.allows item then some (s.push 0, rest) else none
  | none => none

/-- One part of a pattern, which begins with a character, is read. -/
def step? (s : Spot) (c : Char) (rest : List Char) : Option (Spot × List Char) :=
  match c with
  | '|' => some ({ s with branches := s.branches.split, operand := false }, rest)
  | '(' => s.group? rest
  | ')' => s.leave?.map (·, rest)
  | '[' => (s.mode.class? rest).map fun (depth, rest) => (s.push depth, rest)
  | '*' => s.repeat? rest
  | '+' => s.repeat? rest
  | '?' => s.repeat? rest
  | '.' => if s.mode.unicode then some (s.push 0, rest) else none
  | '^' => some (s.push 0, rest)
  | '$' => some (s.push 0, rest)
  | '\x7b' => none
  | c => s.pushItem? (s.mode.item? (c :: rest))

/-- No pattern is deeper than this. -/
def depthLimit : Nat :=
  250

/-- The rest of a pattern is well formed. Each step reads a character at least. -/
def completes : Nat → Spot → List Char → Bool
  | 0, _, _ => false
  | fuel + 1, s, text =>
    match s.mode.skip text with
    | [] => s.outer.isEmpty && s.branches.depth ≤ depthLimit
    | c :: rest =>
      match s.step? c rest with
      | some (next, rest) => next.completes fuel rest
      | none => false

end Spot

/-- The text is a well-formed pattern. -/
def isWellFormed (text : List Char) : Bool :=
  Spot.completes (text.length + 1) {} text

end GuardedScript.Log.Pattern
