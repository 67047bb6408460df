/-!
# Blocks

The blocks that are open at a point of a script form a stack. At its bottom is the *root*,
which is always active and never closes. A block keeps the activation with which it was
entered until it is left, and every block has a number of its own.
-/

namespace GuardedScript

/-- An open block: its number, and whether its instructions are executed. -/
structure Block where
  id : Nat
  active : Bool
deriving DecidableEq, Repr

/-- The block around the whole script. -/
def Block.root : Block :=
  ⟨0, true⟩

/-- The open blocks: the current one, those around it, innermost first, and the number of the
next block. -/
structure Blocks where
  current : Block
  outer : List Block
  nextId : Nat
deriving DecidableEq, Repr

namespace Blocks

/-- Only the root is open. -/
def start : Blocks :=
  ⟨Block.root, [], 1⟩

/-- All open blocks, innermost first. -/
def toList (b : Blocks) : List Block :=
  b.current :: b.outer

/-- How many blocks are open inside the root. -/
def depth (b : Blocks) : Nat :=
  b.outer.length

/-- A new block opens, with the given activation. -/
def enter (b : Blocks) (active : Bool) : Blocks :=
  ⟨⟨b.nextId, active⟩, b.toList, b.nextId + 1⟩

/-- The current block closes: that block, and the blocks still open. The root does not
close. -/
def leave? (b : Blocks) : Option (Block × Blocks) :=
  match b.outer with
  | [] => none
  | parent :: outer => some (b.current, ⟨parent, outer, b.nextId⟩)

/-- A block opens or the current one closes. -/
inductive Move
  | enter (active : Bool)
  | leave
deriving DecidableEq, Repr

/-- What a move gives: the block that opened or closed, and the open blocks after it. Closing the
root gives nothing and changes nothing. -/
def move (b : Blocks) : Move → Option Block × Blocks
  | .enter active => (some (b.enter active).current, b.enter active)
  | .leave =>
    match b.leave? with
    | some (closed, rest) => (some closed, rest)
    | none => (none, b)

@[simp]
theorem toList_start :
  start.toList = [Block.root]
  := by
  rfl

@[simp]
theorem toList_enter (b : Blocks) (active : Bool) :
  (b.enter active).toList = ⟨b.nextId, active⟩ :: b.toList
  := by
  rfl

@[simp]
theorem depth_enter (b : Blocks) (active : Bool) :
  (b.enter active).depth = b.depth + 1
  := by
  rfl

/-- Blocks close unless only the root is open. -/
theorem leave?_eq_none_iff {b : Blocks} :
  b.leave? = none ↔ b.depth = 0
  := by
  obtain ⟨current, outer, nextId⟩ := b
  cases outer <;> simp [leave?, depth]

/-- Leaving a block that has just been entered gives it back, and the blocks as they were
except for the next number. -/
@[simp]
theorem leave?_enter (b : Blocks) (active : Bool) :
  (b.enter active).leave? = some (⟨b.nextId, active⟩, ⟨b.current, b.outer, b.nextId + 1⟩)
  := by
  rfl

/-- The block that closes was the innermost one. -/
theorem toList_eq_of_leave? {b rest : Blocks} {closed : Block}
    (h : b.leave? = some (closed, rest)) :
  b.toList = closed :: rest.toList
  := by
  obtain ⟨current, outer, nextId⟩ := b
  cases outer with
  | nil => simp [leave?] at h
  | cons parent outer =>
    simp only [leave?, Option.some.injEq, Prod.mk.injEq] at h
    obtain ⟨rfl, rfl⟩ := h
    rfl

end Blocks

end GuardedScript
