import GuardedScript.Literal
import GuardedScript.Program.Basic

/-!
# Written programs

A program can be written in many ways. Components have at least one space between them, an
instruction ends with a semicolon, a guard with a space and the opening of its block; and spaces
and comment lines may stand before, between and after items.
-/

namespace GuardedScript

/-- A number of spaces. -/
def spaces (count : Nat) : List Char :=
  List.replicate count ' '

/-- Spaces and whole comment lines. -/
inductive Gap : List Char → Prop
  | nil : Gap []
  | space {gap : List Char} : Gap gap → Gap (' ' :: gap)
  | comment {text gap : List Char} (h : '\n' ∉ text) :
    Gap gap → Gap ('#' :: (text ++ '\n' :: gap))

/-- A component as it is written. -/
def Component.write : Component → List Char
  | word text => text.toList
  | literal quote text => quote.enclose text.toList
  | reference name => '$' :: name.toList

/-- The text of one component or more, with spaces between them. -/
inductive Row : List Component → List Char → Prop
  | one (c : Component) : Row [c] c.write
  | cons (c : Component) (count : Nat) {rest : List Component} {text : List Char} :
    Row rest text → Row (c :: rest) (c.write ++ spaces (count + 1) ++ text)

mutual

/-- The text of an item. -/
inductive Item.Written : Item → List Char → Prop
  | instruction {components : List Component} {row : List Char} (count : Nat) :
    Row components row → Item.Written (.instruction components) (row ++ spaces count ++ [';'])
  | block {guard : List Component} {body : List Item} {row inner : List Char} (count : Nat) :
    Row guard row → Program.Written body inner →
    Item.Written (.block guard body)
      (row ++ spaces (count + 1) ++ '\x7b' :: (inner ++ ['\x7d']))

/-- The text of a program. -/
inductive Program.Written : List Item → List Char → Prop
  | nil {gap : List Char} : Gap gap → Program.Written [] gap
  | cons {item : Item} {rest : List Item} {gap text after : List Char} :
    Gap gap → Item.Written item text → Program.Written rest after →
    Program.Written (item :: rest) (gap ++ text ++ after)

end

end GuardedScript
