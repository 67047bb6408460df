import GuardedScript.Proofs.Agreement
import GuardedScript.Proofs.Nesting
import Mathlib.Data.List.Induction

/-!
# Open blocks as a plain stack

The open blocks keep the current one apart from those around it. Whatever blocks are entered and
left, they are a plain stack in which the root is at the bottom and stays there: what a move gives
and what can be seen after it are the same.

The blocks are numbered in the order in which they are entered, so no number is given out twice and
the numbers of the open blocks ascend from the root. Where blocks are left, those come back that
were entered: moves that are balanced, as braces are, leave the open blocks as they found them.
-/

universe u

namespace GuardedScript

namespace Blocks

/-! ### Moves one after the other -/

namespace Move

/-- What moves make of a state, where `step` tells what each move gives and makes of it. -/
def after {β : Type u} (step : β → Move → Option Block × β) (s : β) (moves : List Move) : β :=
  moves.foldl (fun s m => (step s m).2) s

/-- What the moves give, one after the other. -/
def given {β : Type u} (step : β → Move → Option Block × β) (s : β) :
    List Move → List (Option Block)
  | [] => []
  | m :: rest => (step s m).1 :: given step (step s m).2 rest

/-- The move enters a block. -/
def isEnter : Move → Bool
  | enter _ => true
  | leave => false

/-- The brace at which a script makes the move. -/
def brace : Move → Char
  | enter _ => '\x7b'
  | leave => '\x7d'

end Move

/-- The open blocks after moves. -/
def after (b : Blocks) (moves : List Move) : Blocks :=
  Move.after move b moves

@[simp]
theorem after_nil (b : Blocks) :
  b.after [] = b
  := by
  rfl

@[simp]
theorem after_cons (b : Blocks) (m : Move) (moves : List Move) :
  b.after (m :: moves) = (b.move m).2.after moves
  := by
  rfl

@[simp]
theorem after_append (b : Blocks) (first second : List Move) :
  b.after (first ++ second) = (b.after first).after second
  := by
  simp [after, Move.after]

/-- Entering a block gives it. -/
@[simp]
theorem move_enter (b : Blocks) (active : Bool) :
  b.move (.enter active) = (some ⟨b.nextId, active⟩, b.enter active)
  := by
  rfl

/-- Leaving a block that is not the root gives it back. -/
theorem move_leave {b rest : Blocks} {closed : Block} (hleave : b.leave? = some (closed, rest)) :
  b.move .leave = (some closed, rest)
  := by
  rw [move, hleave]

/-- The root is not left, and nothing changes. -/
theorem move_leave_of_root {b : Blocks} (hdepth : b.depth = 0) :
  b.move .leave = (none, b)
  := by
  rw [move, leave?_eq_none_iff.mpr hdepth]

/-- What a move can do to the open blocks: it enters one, or leaves one, or nothing because only
the root is open. -/
theorem move_cases (b : Blocks) (m : Move) :
  (∃ active, m = .enter active ∧ (b.move m).2 = b.enter active)
    ∨ (∃ closed, m = .leave ∧ b.leave? = some (closed, (b.move m).2))
    ∨ m = .leave ∧ b.depth = 0 ∧ (b.move m).2 = b
  := by
  cases m with
  | enter active => exact .inl ⟨active, rfl, rfl⟩
  | leave =>
    right
    cases hleave : b.leave? with
    | none =>
      right
      have hdepth := leave?_eq_none_iff.mp hleave
      rw [move_leave_of_root hdepth]
      exact ⟨rfl, hdepth, rfl⟩
    | some left =>
      left
      rw [move_leave hleave]
      exact ⟨left.1, rfl, rfl⟩

/-- What every move keeps, moves keep. -/
theorem after_invariant {P : Blocks → Prop} (hmove : ∀ b m, P b → P (b.move m).2) {b : Blocks}
    (hb : P b) (moves : List Move) :
  P (b.after moves)
  := by
  induction moves generalizing b with
  | nil => apply hb
  | cons m rest ih => apply ih (hmove b m hb)

/-! ### A plain stack -/

/-- A plain stack of blocks: its entries, latest first, and how many have ever been pushed. -/
structure Pile where
  entries : List Block
  pushed : Nat

namespace Pile

/-- Only the root is on the stack. -/
def start : Pile :=
  ⟨[⟨0, true⟩], 0⟩

/-- What a move gives, and the stack after it. A block that is entered is pushed with the next
number, one that is left is popped; but the last entry stays. -/
def move (p : Pile) : Move → Option Block × Pile
  | .enter active =>
    (some ⟨p.pushed + 1, active⟩, ⟨⟨p.pushed + 1, active⟩ :: p.entries, p.pushed + 1⟩)
  | .leave =>
    match p.entries with
    | top :: below :: rest => (some top, ⟨below :: rest, p.pushed⟩)
    | _ => (none, p)

/-- The stack holds the open blocks. -/
structure Holds (p : Pile) (b : Blocks) : Prop where
  entries : p.entries = b.toList
  pushed : p.pushed + 1 = b.nextId

/-- A move gives the same on both sides, and the stack still holds the open blocks. -/
theorem Holds.move {p : Pile} {b : Blocks} (holds : p.Holds b) (m : Move) :
  (p.move m).1 = (b.move m).1 ∧ (p.move m).2.Holds (b.move m).2
  := by
  obtain ⟨entries, pushed⟩ := p
  obtain ⟨current, outer, nextId⟩ := b
  obtain rfl : entries = current :: outer := holds.entries
  obtain rfl : pushed + 1 = nextId := holds.pushed
  cases m with
  | enter active => exact ⟨rfl, rfl, rfl⟩
  | leave =>
    cases outer with
    | nil => exact ⟨rfl, rfl, rfl⟩
    | cons parent outer => exact ⟨rfl, rfl, rfl⟩

/-- The same holds of moves one after the other. -/
theorem Holds.moves {p : Pile} {b : Blocks} (holds : p.Holds b) (moves : List Move) :
  Move.given Pile.move p moves = Move.given Blocks.move b moves
    ∧ (Move.after Pile.move p moves).Holds (b.after moves)
  := by
  induction moves generalizing p b with
  | nil => exact ⟨rfl, holds⟩
  | cons m rest ih =>
    obtain ⟨hgiven, hnext⟩ := holds.move m
    obtain ⟨hrest, hlast⟩ := ih hnext
    constructor
    · rw [Move.given, Move.given, hgiven, hrest]
    · apply hlast

theorem holds_start :
  start.Holds Blocks.start
  where
  entries := rfl
  pushed := rfl

end Pile

/-- The root stays at the bottom. -/
theorem getLast?_move (b : Blocks) (m : Move) :
  (b.move m).2.toList.getLast? = b.toList.getLast?
  := by
  rcases b.move_cases m with ⟨active, -, hnext⟩ | ⟨closed, -, hleave⟩ | ⟨-, -, hnext⟩
  · rw [hnext, toList_enter, toList, List.getLast?_cons_cons]
  · rw [toList_eq_of_leave? hleave, toList, List.getLast?_cons_cons]
  · rw [hnext]

theorem getLast?_after (moves : List Move) :
  (start.after moves).toList.getLast? = some Block.root
  := by
  apply after_invariant (P := fun b => b.toList.getLast? = some Block.root)
  · intro b m hlast
    rw [getLast?_move, hlast]
  · rfl

/-! ### Numbers -/

/-- A move gives out a number when it enters a block. -/
theorem nextId_move (b : Blocks) (m : Move) :
  (b.move m).2.nextId = b.nextId + if m.isEnter then 1 else 0
  := by
  rcases b.move_cases m with ⟨active, rfl, hnext⟩ | ⟨closed, rfl, hleave⟩ | ⟨rfl, -, hnext⟩
  · rw [hnext]
    rfl
  · rw [nextId_of_leave? hleave]
    rfl
  · rw [hnext]
    rfl

/-- As many numbers have been given out as blocks have been entered. -/
theorem nextId_after (b : Blocks) (moves : List Move) :
  (b.after moves).nextId = b.nextId + moves.countP Move.isEnter
  := by
  induction moves generalizing b with
  | nil => rfl
  | cons m rest ih =>
    rw [after_cons, ih, nextId_move, List.countP_cons]
    omega

/-- A block is entered with the number after those that have been given out. -/
theorem given_enter (moves : List Move) (active : Bool) :
  ((start.after moves).move (.enter active)).1
    = some ⟨moves.countP Move.isEnter + 1, active⟩
  := by
  have hnext := nextId_after start moves
  rw [start, Nat.add_comm] at hnext
  rw [← hnext]
  rfl

theorem later_move (b : Blocks) (m : Move) :
  b.Later (b.move m).2
  := by
  rcases b.move_cases m with ⟨active, -, hnext⟩ | ⟨closed, -, hleave⟩ | ⟨-, -, hnext⟩
  · rw [hnext]
    apply Later.enter
  · apply Later.leave hleave
  · rw [hnext]
    apply Later.refl

/-- Moves enter and leave blocks. -/
theorem later_after (b : Blocks) (moves : List Move) :
  b.Later (b.after moves)
  := by
  apply after_invariant (P := b.Later)
  · intro b' m later
    apply later.trans (later_move b' m)
  · apply Later.refl

/-- The number of every open block has been given out. -/
theorem numbered_after (moves : List Move) :
  (start.after moves).Numbered
  := by
  apply (later_after start moves).numbered numbered_start

/-- The numbers of the open blocks ascend from the root inwards. -/
def Ascending (b : Blocks) : Prop :=
  b.toList.Pairwise fun inner outer => outer.id < inner.id

theorem Ascending.move {b : Blocks} (ascending : b.Ascending) (numbered : b.Numbered) (m : Move) :
  (b.move m).2.Ascending
  := by
  rcases b.move_cases m with ⟨active, -, hnext⟩ | ⟨closed, -, hleave⟩ | ⟨-, -, hnext⟩
  · rw [hnext, Ascending, toList_enter]
    apply List.Pairwise.cons _ ascending
    apply numbered
  · rw [Ascending, toList_eq_of_leave? hleave] at ascending
    apply ascending.of_cons
  · rw [hnext]
    apply ascending

theorem ascending_after (moves : List Move) :
  (start.after moves).Ascending
  := by
  have hboth : (start.after moves).Numbered ∧ (start.after moves).Ascending := by
    apply after_invariant (P := fun b => b.Numbered ∧ b.Ascending)
    · rintro b m ⟨numbered, ascending⟩
      exact ⟨(later_move b m).numbered numbered, ascending.move numbered m⟩
    · exact ⟨numbered_start, List.pairwise_singleton _ _⟩
  apply hboth.2

/-! ### Moves that are balanced -/

/-- Moves at balanced braces never meet the root alone, so that they do what the braces say. -/
theorem follows_of_balanced {braces : List Char} (balanced : Balanced braces) {moves : List Move}
    (hbraces : moves.map Move.brace = braces) (b : Blocks) :
  b.Follows braces (b.after moves)
  := by
  induction balanced generalizing moves b with
  | nil =>
    rw [List.map_eq_nil_iff.mp hbraces]
    apply Follows.nil
  | @block inner rest hinner _ ihinner ihrest =>
    obtain ⟨m, moves, rfl, hm, hmoves⟩ := List.map_eq_cons_iff.mp hbraces
    obtain ⟨inside, others, rfl, hinside, hothers⟩ := List.map_eq_append_iff.mp hmoves
    obtain ⟨m', outside, rfl, hm', houtside⟩ := List.map_eq_cons_iff.mp hothers
    cases m with
    | leave => cases hm
    | enter active =>
      cases m' with
      | enter _ => cases hm'
      | leave =>
        have hfollows := ihinner hinside (b.enter active)
        have hopen := hfollows.toList_of_balanced hinner
        rw [toList_enter] at hopen
        obtain ⟨back, hleave, -⟩ := leave?_of_toList hopen
        have hnext : b.after (.enter active :: (inside ++ .leave :: outside))
            = back.after outside := by
          rw [after_cons, move_enter, after_append, after_cons, move_leave hleave]
        rw [hnext]
        apply Follows.enter active
        apply hfollows.trans
        apply Follows.leave hleave (ihrest houtside back)

/-- After balanced moves the open blocks are what they were. -/
theorem toList_after_of_balanced {moves : List Move} (balanced : Balanced (moves.map Move.brace))
    (b : Blocks) :
  (b.after moves).toList = b.toList
  := by
  apply (follows_of_balanced balanced rfl b).toList_of_balanced balanced

/-- Since the root was last left alone, every move has done what its brace says. -/
theorem exists_follows (moves : List Move) :
  ∃ front back, moves = front ++ back ∧ (start.after front).depth = 0
    ∧ (start.after front).Follows (back.map Move.brace) (start.after moves)
  := by
  induction moves using List.reverseRecOn with
  | nil => exact ⟨[], [], rfl, rfl, .nil _⟩
  | append_singleton moves m ih =>
    obtain ⟨front, back, hmoves, hdepth, hfollows⟩ := ih
    -- A move that does something goes on with the braces, and one that does not begins them anew.
    have hlonger : (start.after moves).Follows [m.brace] (start.after (moves ++ [m])) →
        ∃ front back, moves ++ [m] = front ++ back ∧ (start.after front).depth = 0
          ∧ (start.after front).Follows (back.map Move.brace) (start.after (moves ++ [m])) := by
      intro hlast
      use front, back ++ [m]
      rw [List.map_append, ← List.append_assoc, ← hmoves]
      exact ⟨rfl, hdepth, hfollows.trans hlast⟩
    rcases (start.after moves).move_cases m
      with ⟨active, rfl, -⟩ | ⟨closed, rfl, hleave⟩ | ⟨rfl, hroot, hnext⟩
    · apply hlonger
      rw [after_append]
      apply Follows.enter active (.nil _)
    · apply hlonger
      rw [after_append]
      apply Follows.leave hleave (.nil _)
    · use moves ++ [.leave], []
      rw [List.append_nil, after_append, after_cons, after_nil, hnext]
      exact ⟨rfl, hroot, .nil _⟩

/-- A block that is left has been entered by some move, and the moves since then are balanced. -/
theorem exists_enter {moves : List Move} (hdepth : 0 < (start.after moves).depth) :
  ∃ front active inner, moves = front ++ .enter active :: inner
    ∧ Balanced (inner.map Move.brace)
  := by
  obtain ⟨front, back, rfl, hroot, hfollows⟩ := exists_follows moves
  rw [← hroot] at hdepth
  obtain ⟨before, inside, hbraces, balanced⟩ := hfollows.exists_opening hdepth
  obtain ⟨earlier, others, rfl, -, hothers⟩ := List.map_eq_append_iff.mp hbraces
  obtain ⟨m, inner, rfl, hm, rfl⟩ := List.map_eq_cons_iff.mp hothers
  cases m with
  | leave => cases hm
  | enter active => exact ⟨front ++ earlier, active, inner, by simp, balanced⟩

/-- Leaving a block gives what entering it gave, when the moves between are balanced. -/
theorem given_leave (b : Blocks) (active : Bool) {inner : List Move}
    (balanced : Balanced (inner.map Move.brace)) :
  ((b.after (.enter active :: inner)).move .leave).1 = (b.move (.enter active)).1
  := by
  have hopen := toList_after_of_balanced balanced (b.enter active)
  rw [toList_enter] at hopen
  obtain ⟨back, hleave, -⟩ := leave?_of_toList hopen
  rw [after_cons, move_enter, move_leave hleave]

/-! ### The stack of open blocks -/

/-- The open blocks are a stack. Whatever moves are made, they give what they give on a plain stack,
whose last entry is always the root; the current block is on its top, and as many blocks are open
inside the root as there are entries above the last. A block is entered with the number of blocks
entered so far, itself included, and with the activation that the move gives it. The numbers of the
open blocks ascend from the root, and a new one is above those of all blocks that have ever been
open. Where only the root is open, leaving gives nothing and changes nothing. Any other block that
is left has been entered by a move with balanced moves behind it, and wherever the moves between
are balanced, leaving gives what entering gave. Balanced moves give back the current block and all
blocks around it. -/
theorem moves_as_pile :
  (∀ moves, Move.given move start moves = Move.given Pile.move Pile.start moves
    ∧ (Move.after Pile.move Pile.start moves).entries.head? = some (start.after moves).current
    ∧ (Move.after Pile.move Pile.start moves).entries.length = (start.after moves).depth + 1
    ∧ (Move.after Pile.move Pile.start moves).entries.getLast? = some ⟨0, true⟩)
    ∧ (∀ moves active, ((start.after moves).move (.enter active)).1
      = some ⟨moves.countP Move.isEnter + 1, active⟩)
    ∧ (∀ moves, (start.after moves).toList.Pairwise fun inner outer => outer.id < inner.id)
    ∧ (∀ first second active, ∀ block ∈ (start.after first).toList, ∀ new,
      ((start.after (first ++ second)).move (.enter active)).1 = some new → block.id < new.id)
    ∧ (∀ moves, (start.after moves).depth = 0 →
      (start.after moves).move .leave = (none, start.after moves))
    ∧ (∀ moves, 0 < (start.after moves).depth → ∃ front active inner,
      moves = front ++ .enter active :: inner ∧ Balanced (inner.map Move.brace)
        ∧ ((start.after moves).move .leave).1 = ((start.after front).move (.enter active)).1)
    ∧ (∀ front active inner, Balanced (inner.map Move.brace) →
      ((start.after (front ++ .enter active :: inner)).move .leave).1
        = ((start.after front).move (.enter active)).1)
    ∧ ∀ moves inner, Balanced (inner.map Move.brace) →
      (start.after (moves ++ inner)).current = (start.after moves).current
        ∧ (start.after (moves ++ inner)).outer = (start.after moves).outer
  := by
  refine ⟨?_, given_enter, ascending_after, ?_, ?_, ?_, ?_, ?_⟩
  · intro moves
    obtain ⟨hgiven, hholds⟩ := Pile.holds_start.moves moves
    rw [hholds.entries]
    exact ⟨hgiven.symm, rfl, rfl, getLast?_after moves⟩
  · intro first second active block hblock new hnew
    have hid := numbered_after first block hblock
    have hlater := (later_after (start.after first) second).nextId
    rw [after_append, move_enter] at hnew
    cases hnew
    apply Nat.lt_of_lt_of_le hid hlater
  · intro moves hdepth
    apply move_leave_of_root hdepth
  · intro moves hdepth
    obtain ⟨front, active, inner, rfl, balanced⟩ := exists_enter hdepth
    use front, active, inner, rfl, balanced
    rw [after_append, given_leave _ active balanced]
  · intro front active inner balanced
    rw [after_append, given_leave _ active balanced]
  · intro moves inner balanced
    have hsame := toList_after_of_balanced balanced (start.after moves)
    rw [after_append]
    apply List.cons.inj hsame

/-- A block is left too often, and then one is entered with a block inside it, which is left. -/
theorem moves_as_pile_nested :
  let moves : List Move := [.enter true, .leave, .leave, .enter false]
  let inner : List Move := [.enter true, .leave]
  ((start.after [.enter true, .leave]).depth = 0
      ∧ (start.after [.enter true, .leave]).move .leave
        = (none, start.after [.enter true, .leave]))
    ∧ ((⟨1, true⟩ : Block) ∈ (start.after [.enter true]).toList
      ∧ ((start.after ([.enter true] ++ [.leave])).move (.enter false)).1 = some ⟨2, false⟩
      ∧ (⟨1, true⟩ : Block).id < (⟨2, false⟩ : Block).id)
    ∧ (0 < (start.after moves).depth ∧ ∃ front active inner,
      moves = front ++ .enter active :: inner ∧ Balanced (inner.map Move.brace)
        ∧ ((start.after moves).move .leave).1 = ((start.after front).move (.enter active)).1)
    ∧ Balanced (inner.map Move.brace)
    ∧ (start.after (moves ++ inner)).current = ⟨2, false⟩
    ∧ ((start.after (moves ++ inner)).move .leave).1 = some ⟨2, false⟩
  := by
  intro moves inner
  obtain ⟨-, -, -, hfresh, hroot, hentered, hmatch, hrestore⟩ := moves_as_pile
  have hdepth : (start.after [.enter true, .leave]).depth = 0 := rfl
  have hopen : (⟨1, true⟩ : Block) ∈ (start.after [.enter true]).toList := by decide
  have hnew : ((start.after ([.enter true] ++ [.leave])).move (.enter false)).1
      = some ⟨2, false⟩ := rfl
  have hinside : 0 < (start.after moves).depth := by decide
  have balanced : Balanced (inner.map Move.brace) := Balanced.enclose Balanced.nil
  exact ⟨⟨hdepth, hroot _ hdepth⟩, ⟨hopen, hnew, hfresh _ _ _ _ hopen _ hnew⟩,
    ⟨hinside, hentered _ hinside⟩, balanced, (hrestore moves inner balanced).1,
    hmatch [.enter true, .leave, .leave] false inner balanced⟩

end Blocks

end GuardedScript
