import GuardedScript.Decimal.Layout
import GuardedScript.Value.Basic

/-!
# The text of values

Values are written as JSON in two forms: *compact*, without any blank, and *indented*, with
a line for each item and member, two spaces further in at each level. Members are written
in the order in which they stand. Strings escape the quote, the backslash and the control
characters below the space, and leave all others as they are.
-/

namespace GuardedScript.Value

/-- Floating-point numbers are written plainly from `0.00001` to below `10 ^ 16`. -/
def floatLayout : Decimal.Layout :=
  ⟨-5, 15⟩

/-- A digit of base sixteen, in lower case. -/
def hexDigit (n : Nat) : Char :=
  Nat.digitChar (n % 16)

/-- A character inside a string. -/
def escape (c : Char) : List Char :=
  if c = '"' then ['\\', '"']
  else if c = '\\' then ['\\', '\\']
  else if c = '\x08' then ['\\', 'b']
  else if c = '\x0c' then ['\\', 'f']
  else if c = '\n' then ['\\', 'n']
  else if c = '\r' then ['\\', 'r']
  else if c = '\t' then ['\\', 't']
  else if c.toNat < 0x20 then
    ['\\', 'u', '0', '0', hexDigit (c.toNat / 16), hexDigit c.toNat]
  else [c]

/-- A string between quotes. -/
def quoted (s : String) : List Char :=
  '"' :: (s.toList.flatMap escape ++ ['"'])

/-- An integer in decimal. -/
def writeInt (n : Int) : List Char :=
  if n < 0 then '-' :: Nat.toDigits 10 n.natAbs else Nat.toDigits 10 n.natAbs

/-- A number. One that is not finite has no written form and becomes `null`. -/
def writeNumber : Number → List Char
  | .int n => writeInt n.val
  | .float x => if x.isFinite then floatLayout.writeFloat x else "null".toList

/-- A truth value. -/
def writeBool (b : Bool) : List Char :=
  if b then "true".toList else "false".toList

/-! ### The compact form -/

mutual

/-- The compact form of a value. -/
def compact : Value → List Char
  | null => "null".toList
  | bool b => writeBool b
  | num n => writeNumber n
  | str s => quoted s
  | arr [] => ['[', ']']
  | arr (v :: rest) => '[' :: (compact v ++ compactItems rest)
  | obj [] => ['\x7b', '\x7d']
  | obj ((k, v) :: rest) => '\x7b' :: (quoted k ++ ':' :: (compact v ++ compactMembers rest))

/-- The items after the first, each after a comma, and the end of the array. -/
def compactItems : List Value → List Char
  | [] => [']']
  | v :: rest => ',' :: (compact v ++ compactItems rest)

/-- The members after the first, each after a comma, and the end of the object. -/
def compactMembers : List (String × Value) → List Char
  | [] => ['\x7d']
  | (k, v) :: rest => ',' :: (quoted k ++ ':' :: (compact v ++ compactMembers rest))

end

/-- The compact form of a value, as a string. -/
def toText (v : Value) : String :=
  String.ofList v.compact

/-- The text of a value among other words: a string stands for itself, any other value has
its compact form. -/
def display : Value → String
  | str s => s
  | v => v.toText

/-! ### The indented form -/

/-- A new line at a level of indentation. -/
def newLine (level : Nat) : List Char :=
  '\n' :: List.replicate (2 * level) ' '

mutual

/-- The indented form of a value that stands at a level. -/
def indented (level : Nat) : Value → List Char
  | null => "null".toList
  | bool b => writeBool b
  | num n => writeNumber n
  | str s => quoted s
  | arr [] => ['[', ']']
  | arr (v :: rest) =>
    '[' :: (newLine (level + 1) ++ indented (level + 1) v ++ indentedItems level rest)
  | obj [] => ['\x7b', '\x7d']
  | obj ((k, v) :: rest) =>
    '\x7b' :: (newLine (level + 1) ++ quoted k ++ [':', ' '] ++ indented (level + 1) v
      ++ indentedMembers level rest)

/-- The items after the first of an array that stands at a level, and its end. -/
def indentedItems (level : Nat) : List Value → List Char
  | [] => newLine level ++ [']']
  | v :: rest =>
    ',' :: (newLine (level + 1) ++ indented (level + 1) v ++ indentedItems level rest)

/-- The members after the first of an object that stands at a level, and its end. -/
def indentedMembers (level : Nat) : List (String × Value) → List Char
  | [] => newLine level ++ ['\x7d']
  | (k, v) :: rest =>
    ',' :: (newLine (level + 1) ++ quoted k ++ [':', ' '] ++ indented (level + 1) v
      ++ indentedMembers level rest)

end

end GuardedScript.Value
