import GuardedScript.Text.Blank
import GuardedScript.Text.Letter
import GuardedScript.Value.Quoted

/-!
# The items of a pattern

An item is the smallest part of a pattern that stands for something: a character, or an escape.
Which items may stand in a pattern depends on its *mode*.

Classes and case rules that need the tables of Unicode are not at hand: in the mode in which a
pattern is about characters, an item for digits, words or letters of either case is refused. In
the mode of bytes these are at hand, but an item that stands for a byte outside ASCII is refused.
-/

namespace GuardedScript.Log.Pattern

/-- How the characters of a pattern are taken. -/
structure Mode where
  /-- The pattern is about characters, not about bytes. -/
  unicode : Bool := true
  /-- Letters stand for either case. -/
  anyCase : Bool := false
  /-- Blank characters, and all between `#` and the end of the line, are left out. -/
  spaced : Bool := false
deriving DecidableEq, Repr

/-- What an escape, or a character of its own, stands for. -/
inductive Item
  /-- The character with a code point, which may be given as a byte. -/
  | literal (code : Nat) (byte : Bool)
  /-- The digits, the blank characters or those of words, or all others. -/
  | family (complement : Bool)
  /-- A place at the edge of a word, or one that is not. -/
  | edge
  /-- The beginning or the end of the text. -/
  | border
deriving DecidableEq, Repr

/-- The character stands for itself. -/
def Item.ofChar (c : Char) : Item :=
  .literal c.toNat false

namespace Mode

/-! ### What is left out -/

/-- The text from the first character on that is neither blank nor in a comment. -/
def skipped : Bool → List Char → List Char
  | _, [] => []
  | true, c :: rest => skipped (c ≠ '\n') rest
  | false, c :: rest =>
    if Text.isBlank c then skipped false rest
    else if c = '#' then skipped true rest
    else c :: rest

/-- The text from the next character on that is not left out. -/
def skip (m : Mode) (text : List Char) : List Char :=
  if m.spaced then skipped false text else text

/-- The first character that is not blank, nor the mark of a comment. -/
def glimpsed : Bool → List Char → Option Char
  | _, [] => none
  | marked, c :: rest =>
    if Text.isBlank c then glimpsed marked rest
    else if c = '#' && !marked then glimpsed true rest
    else some c

/-- The character that is seen when looking ahead. Of a comment only the mark is overlooked. -/
def glimpse (m : Mode) (text : List Char) : Option Char :=
  if m.spaced then glimpsed false text else text.head?

/-! ### Escapes -/

/-- The code point that a number of digits of base sixteen give, and what follows them. -/
def code? (m : Mode) : Nat → Nat → List Char → Option (Nat × List Char)
  | 0, code, rest => if code.isValidChar then some (code, rest) else none
  | count + 1, code, text =>
    match m.skip text with
    | [] => none
    | c :: rest =>
      match Value.Quoted.hexValue? c with
      | some digit => m.code? count (code * 16 + digit) rest
      | none => none

/-- The items that a character after a backslash stands for, other than itself. -/
def escapes : List (Char × Item) :=
  [('a', .literal 0x07 false), ('f', .literal 0x0C false), ('t', .literal 0x09 false),
    ('n', .literal 0x0A false), ('r', .literal 0x0D false), ('v', .literal 0x0B false),
    ('d', .family false), ('s', .family false), ('w', .family false),
    ('D', .family true), ('S', .family true), ('W', .family true),
    ('b', .edge), ('B', .edge), ('<', .edge), ('>', .edge), ('A', .border), ('z', .border)]

/-- The item after a backslash, and what follows it. Each character of ASCII that is no letter
and no digit may stand for itself. -/
def escape? (m : Mode) : List Char → Option (Item × List Char)
  | [] => none
  | 'x' :: rest => (m.code? 2 0 rest).map fun (code, rest) => (.literal code true, rest)
  | 'u' :: rest => (m.code? 4 0 rest).map fun (code, rest) => (.literal code false, rest)
  | 'U' :: rest => (m.code? 8 0 rest).map fun (code, rest) => (.literal code false, rest)
  | c :: rest =>
    match escapes.lookup c with
    | some item => some (item, rest)
    | none => if c.toNat < 0x80 && !c.isAlphanum then some (.ofChar c, rest) else none

/-- The item at the beginning of a text, and what follows it. -/
def item? (m : Mode) : List Char → Option (Item × List Char)
  | [] => none
  | '\\' :: rest => m.escape? rest
  | c :: rest => some (.ofChar c, rest)

/-! ### Which items may stand -/

/-- The item may stand in a pattern by itself. -/
def allows (m : Mode) : Item → Bool
  | .literal code byte => if m.unicode then !m.anyCase else !byte || code < 0x80
  | .family complement => !m.unicode && !complement
  | .edge => !m.unicode
  | .border => true

/-- The item may stand in a class. -/
def allowsInClass (m : Mode) : Item → Bool
  | .literal code _ => if m.unicode then !m.anyCase else code < 0x80
  | .family complement => !m.unicode && !complement
  | .edge => false
  | .border => false

/-- A class with a name, or its complement, may stand in a class. -/
def allowsNamed (m : Mode) (complement : Bool) : Bool :=
  if m.unicode then !m.anyCase else !complement

end Mode

end GuardedScript.Log.Pattern
