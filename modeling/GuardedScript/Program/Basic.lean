import GuardedScript.Text.Blank
import GuardedScript.Token

/-!
# Programs

A program is the tree that a script stands for: a list of items, each of which is an instruction
or a block with its guard. No tree is built when a script is run; programs say what scripts mean.
-/

namespace GuardedScript

/-- A component of an instruction, as it is written. -/
inductive Component
  /-- A bare word. -/
  | word (text : String)
  /-- A text between quotes. -/
  | literal (quote : Quote) (text : String)
  /-- The value of a variable. -/
  | reference (name : String)
deriving DecidableEq, Repr

/-- A part of a program. -/
inductive Item
  /-- An instruction that is executed for its own sake. -/
  | instruction (components : List Component)
  /-- Items that are executed when a guard holds. -/
  | block (guard : List Component) (body : List Item)

/-- The items of a script, in order. -/
abbrev Program := List Item

namespace Component

/-- The characters that mean something else in a script than a part of a word. -/
def reserved : List Char :=
  [';', '\x7b', '\x7d', '#', '"', '\'', '$']

/-- The characters that end the name of a variable, or have no effect in it. -/
def closing : List Char :=
  [' ', '\n', '\r', ';']

/-- The component can be written: a word is not empty and holds neither blanks nor reserved
characters, a name holds no closing characters, and a literal holds anything. -/
def Writable : Component → Prop
  | word text => text ≠ "" ∧ ∀ c ∈ text.toList, Text.isBlank c = false ∧ c ∉ reserved
  | literal _ _ => True
  | reference name => ∀ c ∈ name.toList, c ∉ closing

instance : DecidablePred Writable
  | word text => @instDecidableAnd (text ≠ "") _ _ (List.decidableBAll _ text.toList)
  | literal _ _ => inferInstanceAs (Decidable True)
  | reference name => List.decidableBAll _ name.toList

end Component

mutual

/-- All components of the item can be written. -/
def Item.Writable : Item → Prop
  | .instruction components => ∀ c ∈ components, c.Writable
  | .block guard body => (∀ c ∈ guard, c.Writable) ∧ Program.Writable body

/-- All components of the program can be written. -/
def Program.Writable : List Item → Prop
  | [] => True
  | item :: rest => item.Writable ∧ Program.Writable rest

end

mutual

/-- Whether an item can be written can be decided. -/
instance Item.decidableWritable : (item : Item) → Decidable item.Writable
  | .instruction components => List.decidableBAll _ components
  | .block guard body =>
    @instDecidableAnd _ _ (List.decidableBAll _ guard) (Program.decidableWritable body)

/-- Whether a program can be written can be decided. -/
instance Program.decidableWritable : (program : List Item) → Decidable (Program.Writable program)
  | [] => inferInstanceAs (Decidable True)
  | item :: rest =>
    @instDecidableAnd _ _ (Item.decidableWritable item) (Program.decidableWritable rest)

end

end GuardedScript
