import GuardedScript.Log.Pattern.Item

/-!
# The classes of a pattern

A class stands in brackets and stands for one of several characters. In it are items, ranges
between two items, classes with a name and other classes; between these may be operators on sets.

How deep a part of a pattern is says how many others it has within one another. Operators group
to the left, and things that stand side by side are one level deeper than the deepest of them.
-/

namespace GuardedScript.Log.Pattern

/-- The depth of things that stand side by side. One alone is as deep as it is. -/
def depthOf : List Nat → Nat
  | [] => 0
  | [depth] => depth
  | depths => depths.foldl Nat.max 0 + 1

/-- A class that has been opened: the depth of what stands before the last operator, if there is
one, and the depths of what stands after it. -/
structure OpenClass where
  left : Option Nat := none
  depths : List Nat := []

namespace OpenClass

/-- One more thing stands in the class. -/
def push (o : OpenClass) (depth : Nat) : OpenClass :=
  { o with depths := depth :: o.depths }

/-- The depth of all that stands in the class. -/
def depth (o : OpenClass) : Nat :=
  match o.left with
  | none => depthOf o.depths
  | some left => Nat.max left (depthOf o.depths) + 1

/-- An operator follows. -/
def operate (o : OpenClass) : OpenClass :=
  ⟨some o.depth, []⟩

end OpenClass

namespace Mode

/-! ### The beginning of a class -/

/-- How many dashes a text begins with, and what follows them. -/
def dashes (m : Mode) : Nat → List Char → Nat × List Char
  | 0, text => (0, text)
  | fuel + 1, text =>
    match m.skip text with
    | '-' :: rest =>
      let (count, rest) := m.dashes fuel rest
      (count + 1, rest)
    | rest => (0, rest)

/-- A class that begins with characters that are literal only because they stand first: dashes,
or a closing bracket. -/
def withFirst? (m : Mode) (text : List Char) : Option (OpenClass × List Char) :=
  let (count, rest) := m.dashes text.length text
  if count = 0 then
    match rest with
    | ']' :: rest => if m.allowsInClass (.ofChar ']') then some ({ depths := [0] }, rest) else none
    | rest => some ({}, rest)
  else if m.allowsInClass (.ofChar '-') then some ({ depths := List.replicate count 0 }, rest)
  else none

/-- A class, after its opening bracket. The complement of a class of bytes would hold bytes
outside ASCII. -/
def open? (m : Mode) (text : List Char) : Option (OpenClass × List Char) :=
  match m.skip text with
  | '^' :: rest => if m.unicode then m.withFirst? rest else none
  | rest => m.withFirst? rest

/-- The names of classes of ASCII characters. -/
def classNames : List String :=
  ["alnum", "alpha", "ascii", "blank", "cntrl", "digit", "graph", "lower", "print", "punct",
    "space", "upper", "word", "xdigit"]

/-- A class with a name, which stands between colons, from after its opening bracket on: whether
it is a complement, and what follows it. -/
def named? (text : List Char) : Option (Bool × List Char) :=
  match text with
  | ':' :: inner =>
    let complement := inner.head? = some '^'
    let body := if complement then inner.tail else inner
    match body.dropWhile (· ≠ ':') with
    | ':' :: ']' :: rest =>
      if classNames.contains (String.ofList (body.takeWhile (· ≠ ':'))) then
        some (complement, rest)
      else none
    | _ => none
  | _ => none

/-! ### What stands in a class -/

/-- The items are the two ends of a range of characters. -/
def isRange : Item → Item → Bool
  | .literal low _, .literal high _ => low ≤ high
  | _, _ => false

/-- What follows the range from an item on, after the dash. -/
def afterRange? (m : Mode) (first : Item) (text : List Char) : Option (List Char) :=
  match m.item? (m.skip text) with
  | some (last, rest) => if m.allowsInClass last && isRange first last then some rest else none
  | none => none

/-- What follows the item of a class, or the range between two items. A dash before a closing
bracket or another dash makes no range. -/
def afterMember? (m : Mode) (text : List Char) : Option (List Char) :=
  match m.item? text with
  | none => none
  | some (first, rest) =>
    if !m.allowsInClass first then none else
      match m.skip rest with
      | '-' :: after =>
        if m.glimpse after = some ']' || m.glimpse after = some '-' then some ('-' :: after)
        else m.afterRange? first after
      | rest => some rest

/-- The depth of a class and what follows it, when it has been read up to a place, and so have
the classes around it. -/
def finishClass? (m : Mode) :
    Nat → List OpenClass → OpenClass → List Char → Option (Nat × List Char)
  | 0, _, _, _ => none
  | fuel + 1, outer, o, text =>
    match m.skip text with
    | [] => none
    | ']' :: rest =>
      match outer with
      | [] => some (o.depth + 1, rest)
      | around :: outer => m.finishClass? fuel outer (around.push (o.depth + 1)) rest
    | '[' :: rest =>
      match named? rest with
      | some (complement, rest) =>
        if m.allowsNamed complement then m.finishClass? fuel outer (o.push 0) rest else none
      | none =>
        match m.open? rest with
        | some (inner, rest) => m.finishClass? fuel (o :: outer) inner rest
        | none => none
    | '&' :: '&' :: rest => m.finishClass? fuel outer o.operate rest
    | '-' :: '-' :: rest => m.finishClass? fuel outer o.operate rest
    | '~' :: '~' :: rest => m.finishClass? fuel outer o.operate rest
    | text =>
      match m.afterMember? text with
      | some rest => m.finishClass? fuel outer (o.push 0) rest
      | none => none

/-- The depth of a class and what follows it, from after its opening bracket on. -/
def class? (m : Mode) (text : List Char) : Option (Nat × List Char) :=
  match m.open? text with
  | some (o, rest) => m.finishClass? text.length [] o rest
  | none => none

end Mode

end GuardedScript.Log.Pattern
