import GuardedScript.Proofs.Activation
import GuardedScript.Proofs.Independence
import GuardedScript.Proofs.Streaming

/-!
# Braces and the blocks that they open

Only a brace that is read freely opens or closes a block: in a literal, a comment or a name it is a
character like any other. The braces that a run *takes* account for its open blocks. An opening
brace enters a block, whether the current one is active or not; a closing brace leaves the current
block, and is refused when all blocks that were entered have been left.

Where the braces between an opening and a closing brace are *balanced*, the two match, and after
the closing brace the open blocks are those from before the opening one.
-/

universe u

namespace GuardedScript

variable {σ : Type u}

/-! ### Balanced braces -/

/-- Every opening brace is closed, and every closing brace closes one. -/
inductive Balanced : List Char → Prop
  | nil : Balanced []
  | block {inner rest : List Char} (hinner : Balanced inner) (hrest : Balanced rest) :
    Balanced ('\x7b' :: (inner ++ '\x7d' :: rest))

namespace Balanced

/-- Balanced braces one after the other are balanced. -/
theorem append {first second : List Char} (hfirst : Balanced first) (hsecond : Balanced second) :
  Balanced (first ++ second)
  := by
  induction hfirst with
  | nil => apply hsecond
  | @block inner rest hinner _ _ ih =>
    have hblock := Balanced.block hinner ih
    rw [List.cons_append, List.append_assoc, List.cons_append]
    apply hblock

/-- Braces around balanced braces are balanced. -/
theorem enclose {inner : List Char} (hinner : Balanced inner) :
  Balanced ('\x7b' :: (inner ++ ['\x7d']))
  := Balanced.block hinner Balanced.nil

end Balanced

/-! ### What braces make of the open blocks -/

namespace Blocks

/-- From `b` to `b'` blocks have been entered and left as the braces say. -/
inductive Follows : Blocks → List Char → Blocks → Prop
  | nil (b : Blocks) : Follows b [] b
  | enter {b b' : Blocks} {rest : List Char} (active : Bool)
    (hrest : Follows (b.enter active) rest b') :
    Follows b ('\x7b' :: rest) b'
  | leave {b m b' : Blocks} {rest : List Char} {closed : Block}
    (hleave : b.leave? = some (closed, m)) (hrest : Follows m rest b') :
    Follows b ('\x7d' :: rest) b'

namespace Follows

theorem trans {b m b' : Blocks} {first second : List Char} (hfirst : Follows b first m)
    (hsecond : Follows m second b') :
  Follows b (first ++ second) b'
  := by
  induction hfirst with
  | nil b => apply hsecond
  | enter active _ ih => apply Follows.enter active (ih hsecond)
  | leave hleave _ ih => apply Follows.leave hleave (ih hsecond)

/-- Braces can be followed in two parts. -/
theorem split {b b' : Blocks} {first second : List Char} (h : Follows b (first ++ second) b') :
  ∃ m, Follows b first m ∧ Follows m second b'
  := by
  induction first generalizing b with
  | nil => exact ⟨b, .nil b, h⟩
  | cons c rest ih =>
    cases h with
    | enter active hrest =>
      obtain ⟨m, hfirst, hsecond⟩ := ih hrest
      exact ⟨m, .enter active hfirst, hsecond⟩
    | leave hleave hrest =>
      obtain ⟨m, hfirst, hsecond⟩ := ih hrest
      exact ⟨m, .leave hleave hfirst, hsecond⟩

/-- Every opening brace makes the blocks deeper, every closing brace less deep. -/
theorem depth {b b' : Blocks} {braces : List Char} (h : Follows b braces b') :
  b'.depth + braces.count '\x7d' = b.depth + braces.count '\x7b'
  := by
  induction h with
  | nil b => rfl
  | enter active _ ih =>
    rw [depth_enter] at ih
    rw [List.count_cons_self, List.count_cons_of_ne (by decide)]
    omega
  | leave hleave _ ih =>
    have hdepth := depth_of_leave? hleave
    rw [List.count_cons_self, List.count_cons_of_ne (by decide)]
    omega

/-- After balanced braces the open blocks are what they were. -/
theorem toList_of_balanced {braces : List Char} (balanced : Balanced braces) {b b' : Blocks}
    (h : Follows b braces b') :
  b'.toList = b.toList
  := by
  induction balanced generalizing b b' with
  | nil =>
    cases h
    rfl
  | @block inner rest _ _ ihinner ihrest =>
    cases h with
    | enter active h =>
      obtain ⟨m, hinner, h⟩ := h.split
      cases h with
      | leave hleave hrest =>
        have hclosed := toList_eq_of_leave? hleave
        rw [ihinner hinner, toList_enter] at hclosed
        rw [ihrest hrest, (List.cons.inj hclosed).2]

theorem depth_of_balanced {braces : List Char} (balanced : Balanced braces) {b b' : Blocks}
    (h : Follows b braces b') :
  b'.depth = b.depth
  := by
  have hlength := congrArg List.length (toList_of_balanced balanced h)
  simpa [toList, Blocks.depth] using hlength

/-- Blocks that have become deeper were entered: some opening brace has not been closed, and the
braces behind it are balanced. -/
theorem exists_opening {b b' : Blocks} {braces : List Char} (h : Follows b braces b')
    (deeper : b.depth < b'.depth) :
  ∃ front inner, braces = front ++ '\x7b' :: inner ∧ Balanced inner
  := by
  -- A closing brace at the end closes the last opening brace that is still open before it. The one
  -- to be found is then still open before that brace too, among fewer braces.
  induction hlength : braces.length using Nat.strongRecOn generalizing braces b' with
  | _ n ih =>
    rcases List.eq_nil_or_concat braces with rfl | ⟨front, c, rfl⟩
    · cases h
      apply absurd deeper (Nat.lt_irrefl _)
    · rw [List.concat_eq_append] at h hlength ⊢
      rw [List.length_append, List.length_singleton] at hlength
      obtain ⟨m, hfront, hlast⟩ := h.split
      cases hlast with
      | enter active hnil => exact ⟨front, [], rfl, .nil⟩
      | leave hleave hnil =>
        cases hnil
        have hdepth := depth_of_leave? hleave
        obtain ⟨outer, inner, rfl, hinner⟩ := ih front.length (by omega) hfront (by omega) rfl
        obtain ⟨k, houter, hentered⟩ := hfront.split
        cases hentered with
        | enter active hentered =>
          have hsame := depth_of_balanced hinner hentered
          rw [depth_enter] at hsame
          rw [List.length_append] at hlength
          obtain ⟨front, before, rfl, hbefore⟩ :=
            ih outer.length (by omega) houter (by omega) rfl
          use front, before ++ '\x7b' :: (inner ++ ['\x7d'])
          constructor
          · simp
          · apply hbefore.append hinner.enclose

end Follows

end Blocks

/-! ### Braces that a run takes -/

/-- The block that the event begins. -/
def Event.entered? : Event → Option Block
  | entered block _ => some block
  | _ => none

namespace Scan

/-- The blocks that have been entered, in order. -/
def entered (s : Scan σ) : List Block :=
  s.events.filterMap Event.entered?

/-- The run takes the character as a brace: the brace is read freely, and the run goes on. -/
def takesBrace (h : Host σ) (s : Scan σ) (c : Char) : Bool :=
  s.lexer.mode = .free && (c = '\x7b' || c = '\x7d') && (s.step h c).halt.isNone

/-- The braces of a text that the run takes. -/
def braces (h : Host σ) (s : Scan σ) : List Char → List Char
  | [] => []
  | c :: rest =>
    if s.takesBrace h c then c :: (s.step h c).braces h rest else (s.step h c).braces h rest

theorem braces_append (h : Host σ) (s : Scan σ) (first second : List Char) :
  s.braces h (first ++ second) = s.braces h first ++ (s.feed h first).braces h second
  := by
  induction first generalizing s with
  | nil => rfl
  | cons c rest ih =>
    rw [List.cons_append, braces, braces, ih, feed_cons]
    split
    · rfl
    · rfl

theorem braces_singleton (h : Host σ) (s : Scan σ) (c : Char) :
  s.braces h [c] = if s.takesBrace h c then [c] else []
  := by
  rfl

/-- From `s` to `s'` no block has been entered or left, and the run was not refused at the end of
a block. -/
structure Spares (s s' : Scan σ) : Prop where
  blocks : s'.machine.blocks = s.machine.blocks
  entered : s'.entered = s.entered
  halt : ∀ place, ¬ s'.Refused .closeWithoutBlock place

theorem Spares.trans {s s' s'' : Scan σ} (first : s.Spares s') (second : s'.Spares s'') :
  s.Spares s''
  where
  blocks := second.blocks.trans first.blocks
  entered := second.entered.trans first.entered
  halt := second.halt

theorem not_refused_of_running {s : Scan σ} (running : s.halt = none) (kind : Malformation)
    (place : Position) :
  ¬ s.Refused kind place
  := by
  rw [Refused, running]
  intro refused
  cases refused

end Scan

/-- A closing brace is read as the end of a block. -/
theorem Lexer.step_close {l : Lexer} (hmode : l.mode = .free) :
  l.step '\x7d' = .ok (.start, [.leave])
  := by
  rw [step, hmode]
  rfl

/-- A token that begins and ends no block leaves the open blocks alone. -/
theorem Machine.spares_step (h : Host σ) (m : Machine σ) (place : Position) {t : Token}
    (henter : t ≠ .enter) (hleave : t ≠ .leave) :
  (m.step h place t).machine.blocks = m.blocks
    ∧ (m.step h place t).events.filterMap Event.entered? = []
    ∧ ∀ p, (m.step h place t).halt ≠ some (.failed (.malformed .closeWithoutBlock p))
  := by
  cases t with
  | word text => simp [step, push, Event.entered?]
  | literal text => simp [step, push, Event.entered?]
  | reference name =>
    rw [step]
    split
    · simp [push, Event.entered?]
    · simp [Event.entered?]
  | stop =>
    refine ⟨rfl, rfl, ?_⟩
    intro p
    rw [step]
    dsimp only
    split
    · simp
    · simp
  | enter => apply absurd rfl henter
  | leave => apply absurd rfl hleave
  | comment =>
    rw [step]
    split
    · simp [refuse]
    · simp

namespace Scan

/-- A token that begins and ends no block spares the open blocks. -/
theorem spares_carryOut (h : Host σ) {s : Scan σ}
    (hs : ∀ place, ¬ s.Refused .closeWithoutBlock place) {t : Token} (henter : t ≠ .enter)
    (hleave : t ≠ .leave) :
  s.Spares (s.carryOut h t)
  := by
  by_cases running : s.halt = none
  · obtain ⟨hblocks, hevents, hhalt⟩ := s.machine.spares_step h s.place henter hleave
    rw [carryOut_of_running h running]
    constructor
    · apply hblocks
    · simp [entered, events, hevents]
    · apply hhalt
  · rw [carryOut_of_halt h (Option.isSome_iff_ne_none.mpr running)]
    exact ⟨rfl, rfl, hs⟩

/-- Tokens that begin and end no block spare the open blocks. -/
theorem spares_foldl_carryOut (h : Host σ) {tokens : List Token}
    (htokens : ∀ t ∈ tokens, t ≠ .enter ∧ t ≠ .leave) {s : Scan σ}
    (hs : ∀ place, ¬ s.Refused .closeWithoutBlock place) :
  s.Spares (tokens.foldl (carryOut h) s)
  := by
  induction tokens generalizing s with
  | nil => exact ⟨rfl, rfl, hs⟩
  | cons t rest ih =>
    obtain ⟨⟨henter, hleave⟩, hrest⟩ := List.forall_mem_cons.mp htokens
    have first := spares_carryOut h hs henter hleave
    apply first.trans (ih hrest first.halt)

/-- A character that is no brace, or is not read freely, spares the open blocks. -/
theorem spares_step (h : Host σ) {s : Scan σ} (running : s.halt = none) {c : Char}
    (hbrace : ¬ (s.lexer.mode = .free ∧ (c = '\x7b' ∨ c = '\x7d'))) :
  s.Spares (s.step h c)
  := by
  cases hlex : s.lexer.step c with
  | error kind =>
    rw [step_of_error h running hlex]
    refine ⟨rfl, rfl, ?_⟩
    intro place hrefused
    cases hrefused
    obtain ⟨-, ⟨-, hkind⟩ | ⟨-, hkind⟩⟩ := Lexer.error_cases hlex
    · cases hkind
    · cases hkind
  | ok read =>
    obtain ⟨lexer, tokens⟩ := read
    have htokens : ∀ t ∈ tokens, t ≠ .enter ∧ t ≠ .leave := by
      intro t ht
      constructor
      · rintro rfl
        obtain rfl := (Lexer.completes_step hlex).mark_eq ht rfl
        rcases Lexer.mode_of_mark hlex ht rfl with hfree | ⟨-, hstop⟩
        · apply hbrace ⟨hfree, .inl rfl⟩
        · cases hstop
      · rintro rfl
        obtain rfl := (Lexer.completes_step hlex).mark_eq ht rfl
        rcases Lexer.mode_of_mark hlex ht rfl with hfree | ⟨-, hstop⟩
        · apply hbrace ⟨hfree, .inr rfl⟩
        · cases hstop
    have spares := spares_foldl_carryOut h htokens (not_refused_of_running running _)
    obtain ⟨lexer', place, hgo⟩ := goOn_eq (tokens.foldl (carryOut h) s) lexer (s.place.advance c)
    rw [step_of_ok h running hlex, hgo]
    exact ⟨spares.blocks, spares.entered, spares.halt⟩

/-- The run takes a brace that is read freely when it goes on. -/
theorem takesBrace_iff {h : Host σ} {s : Scan σ} {c : Char} :
  s.takesBrace h c = true
    ↔ s.lexer.mode = .free ∧ (c = '\x7b' ∨ c = '\x7d') ∧ (s.step h c).halt = none
  := by
  simp [takesBrace, and_assoc]

/-- What a character does to the open blocks of a run. It may spare them, and then the run does
not take it as a brace. Otherwise the run takes an opening brace, and enters a block; or takes a
closing brace, and leaves the current block; or it refuses a closing brace, because only the root
is open. -/
inductive Accounts (h : Host σ) (s : Scan σ) : Char → Prop
  | spares {c : Char} (takes : s.takesBrace h c = false) (spares : s.Spares (s.step h c)) :
    Accounts h s c
  | enters (active : Bool) (takes : s.takesBrace h '\x7b' = true)
    (blocks : (s.step h '\x7b').machine.blocks = s.machine.blocks.enter active)
    (entered : (s.step h '\x7b').entered
      = s.entered ++ [(s.step h '\x7b').machine.blocks.current]) :
    Accounts h s '\x7b'
  | leaves {closed : Block} (takes : s.takesBrace h '\x7d' = true)
    (hleave : s.machine.blocks.leave? = some (closed, (s.step h '\x7d').machine.blocks))
    (entered : (s.step h '\x7d').entered = s.entered) :
    Accounts h s '\x7d'
  | refuses (takes : s.takesBrace h '\x7d' = false) (hmode : s.lexer.mode = .free)
    (hdepth : s.machine.blocks.depth = 0)
    (blocks : (s.step h '\x7d').machine.blocks = s.machine.blocks)
    (entered : (s.step h '\x7d').entered = s.entered)
    (refused : (s.step h '\x7d').Refused .closeWithoutBlock s.place) :
    Accounts h s '\x7d'

/-- A run that stops does not take the character as a brace. -/
theorem takesBrace_of_halt {h : Host σ} {s : Scan σ} {c : Char} (stops : (s.step h c).halt.isSome) :
  s.takesBrace h c = false
  := by
  simp [takesBrace, Option.isNone_eq_false_iff.mpr stops]

theorem accounts_open (h : Host σ) {s : Scan σ} (running : s.halt = none)
    (hmode : s.lexer.mode = .free) :
  s.Accounts h '\x7b'
  := by
  have hlex : s.lexer.step '\x7b' = .ok (.start, [.enter]) := by
    rw [Lexer.step, hmode]
    rfl
  cases assembling : s.machine.assembling with
  | true =>
    have hcarry := carryOut_enter h running assembling rfl
    have goes : (s.carryOut h .enter).halt = none := by
      rw [hcarry]
      apply running
    have hstep := step_of_token h running hlex goes
    rw [hcarry] at hstep
    apply Accounts.enters (s.machine.dispatch h true).1.truthy
    · apply takesBrace_iff.mpr
      rw [hstep]
      exact ⟨hmode, .inl rfl, running⟩
    · rw [hstep]
    · rw [hstep]
      simp only [entered, events, Array.toList_appendList, List.filterMap_append]
      rfl
  | false =>
    have hstep := step_of_refused h running hlex (carryOut_enter_of_idle h running assembling)
    apply Accounts.spares
    · apply takesBrace_of_halt
      rw [hstep]
      rfl
    · rw [hstep]
      refine ⟨rfl, rfl, ?_⟩
      rintro place ⟨⟩

/-- A closing brace is refused when only the root is open. -/
theorem step_close_of_root (h : Host σ) {s : Scan σ} (running : s.halt = none)
    (hmode : s.lexer.mode = .free) (hdepth : s.machine.blocks.depth = 0) :
  s.step h '\x7d' = s.refuse .closeWithoutBlock
  := by
  have hleave := Blocks.leave?_eq_none_iff.mpr hdepth
  apply step_of_refused h running (Lexer.step_close hmode) (carryOut_leave_of_root h running hleave)

theorem accounts_close (h : Host σ) {s : Scan σ} (running : s.halt = none)
    (hmode : s.lexer.mode = .free) :
  s.Accounts h '\x7d'
  := by
  cases hleave : s.machine.blocks.leave? with
  | some left =>
    obtain ⟨closed, blocks⟩ := left
    have hcarry := carryOut_leave h running hleave
    have goes : (s.carryOut h .leave).halt = none := by
      rw [hcarry]
      apply running
    have hstep := step_of_token h running (Lexer.step_close hmode) goes
    rw [hcarry] at hstep
    apply Accounts.leaves
    · apply takesBrace_iff.mpr
      rw [hstep]
      exact ⟨hmode, .inr rfl, running⟩
    · rw [hstep]
      apply hleave
    · rw [hstep]
      simp [entered, events, Event.entered?]
  | none =>
    have hdepth := Blocks.leave?_eq_none_iff.mp hleave
    have hstep := step_close_of_root h running hmode hdepth
    apply Accounts.refuses
    · apply takesBrace_of_halt
      rw [hstep]
      rfl
    · apply hmode
    · apply hdepth
    · rw [hstep]
      rfl
    · rw [hstep]
      rfl
    · rw [hstep]
      rfl

/-- Every character accounts for what it does to the open blocks. -/
theorem accounts_step (h : Host σ) {s : Scan σ} (running : s.halt = none) (c : Char) :
  s.Accounts h c
  := by
  by_cases hbrace : s.lexer.mode = .free ∧ (c = '\x7b' ∨ c = '\x7d')
  · obtain ⟨hmode, rfl | rfl⟩ := hbrace
    · apply accounts_open h running hmode
    · apply accounts_close h running hmode
  · apply Accounts.spares _ (spares_step h running hbrace)
    rw [Bool.eq_false_iff, ne_eq, takesBrace_iff]
    rintro ⟨hmode, hc, -⟩
    apply hbrace ⟨hmode, hc⟩

/-- A run that has stopped takes no braces. -/
theorem running_of_takesBrace {h : Host σ} {s : Scan σ} {c : Char}
    (takes : s.takesBrace h c = true) :
  s.halt = none
  := by
  by_cases running : s.halt = none
  · apply running
  · have stopped := Option.isSome_iff_ne_none.mpr running
    have hhalt := (takesBrace_iff.mp takes).2.2
    rw [step_of_halt h stopped] at hhalt
    apply hhalt

/-- An opening brace that the run takes enters a block, and no other character does. -/
theorem entered_step (h : Host σ) (s : Scan σ) (c : Char) :
  (c = '\x7b' ∧ s.takesBrace h c = true ∧ ∃ active,
      (s.step h c).machine.blocks = s.machine.blocks.enter active
      ∧ (s.step h c).entered = s.entered ++ [(s.step h c).machine.blocks.current])
    ∨ (¬ (c = '\x7b' ∧ s.takesBrace h c = true)
      ∧ (s.step h c).entered = s.entered
      ∧ (s.step h c).machine.blocks.nextId = s.machine.blocks.nextId)
  := by
  by_cases running : s.halt = none
  · cases accounts_step h running c with
    | spares takes spares =>
      right
      rw [spares.blocks, takes]
      refine ⟨?_, spares.entered, rfl⟩
      rintro ⟨-, ⟨⟩⟩
    | enters active takes blocks entered =>
      left
      exact ⟨rfl, takes, active, blocks, entered⟩
    | leaves takes hleave entered =>
      right
      refine ⟨?_, entered, Blocks.nextId_of_leave? hleave⟩
      rintro ⟨⟨⟩, -⟩
    | refuses takes hmode hdepth blocks entered refused =>
      right
      rw [blocks]
      refine ⟨?_, entered, rfl⟩
      rintro ⟨⟨⟩, -⟩
  · right
    constructor
    · rintro ⟨-, takes⟩
      apply running (running_of_takesBrace takes)
    · rw [step_of_halt h (Option.isSome_iff_ne_none.mpr running)]
      exact ⟨rfl, rfl⟩

/-- A closing brace that the run takes leaves the current block. -/
theorem leave?_of_takesBrace {h : Host σ} {s : Scan σ} (takes : s.takesBrace h '\x7d' = true) :
  ∃ closed, s.machine.blocks.leave? = some (closed, (s.step h '\x7d').machine.blocks)
  := by
  -- The cases of `Accounts` fix the character, so it is a variable until they are told apart.
  generalize hc : '\x7d' = c at takes ⊢
  cases accounts_step h (running_of_takesBrace takes) c with
  | spares takes' spares =>
    rw [takes] at takes'
    cases takes'
  | enters active takes blocks entered => apply absurd hc (by decide)
  | leaves takes hleave entered => exact ⟨_, hleave⟩
  | refuses takes' hmode hdepth blocks entered refused =>
    rw [takes] at takes'
    cases takes'

/-- The braces that a run takes account for its open blocks. -/
theorem follows_step (h : Host σ) (s : Scan σ) (c : Char) :
  s.machine.blocks.Follows (s.braces h [c]) (s.step h c).machine.blocks
  := by
  rw [braces_singleton]
  by_cases running : s.halt = none
  · cases accounts_step h running c with
    | spares takes spares =>
      rw [takes, spares.blocks]
      apply Blocks.Follows.nil
    | enters active takes blocks entered =>
      rw [if_pos takes, blocks]
      apply Blocks.Follows.enter active (.nil _)
    | leaves takes hleave entered =>
      rw [if_pos takes]
      apply Blocks.Follows.leave hleave (.nil _)
    | refuses takes hmode hdepth blocks entered refused =>
      rw [takes, blocks]
      apply Blocks.Follows.nil
  · rw [if_neg (mt running_of_takesBrace running),
      step_of_halt h (Option.isSome_iff_ne_none.mpr running)]
    apply Blocks.Follows.nil

theorem follows_feed (h : Host σ) (s : Scan σ) (text : List Char) :
  s.machine.blocks.Follows (s.braces h text) (s.feed h text).machine.blocks
  := by
  induction text generalizing s with
  | nil => apply Blocks.Follows.nil
  | cons c rest ih =>
    have hfirst := (follows_step h s c).trans (ih (s.step h c))
    rw [← List.singleton_append, braces_append]
    apply hfirst

/-- Where a brace stands among those that a run takes, it stands in the text. -/
theorem exists_of_braces {h : Host σ} {s : Scan σ} {text front inner : List Char} {c : Char}
    (hbraces : s.braces h text = front ++ c :: inner) :
  ∃ p t, text = p ++ c :: t ∧ (s.feed h p).takesBrace h c = true
    ∧ ((s.feed h p).step h c).braces h t = inner
  := by
  induction text generalizing s front with
  | nil => cases front <;> cases hbraces
  | cons d rest ih =>
    rw [braces] at hbraces
    split at hbraces
    · rename_i takes
      cases front with
      | nil =>
        cases hbraces
        exact ⟨[], rest, rfl, takes, rfl⟩
      | cons _ front =>
        obtain ⟨p, t, rfl, htakes, hinner⟩ := ih (List.cons.inj hbraces).2
        exact ⟨d :: p, t, rfl, htakes, hinner⟩
    · obtain ⟨p, t, rfl, htakes, hinner⟩ := ih hbraces
      exact ⟨d :: p, t, rfl, htakes, hinner⟩

end Scan

/-- The braces of a text that its run takes. -/
def Host.braces (h : Host σ) (s : σ) (text : String) : List Char :=
  (Scan.start s).braces h text.toList

namespace Host

/-- The braces that a run takes account for the blocks that are open after it. -/
theorem follows_scan (h : Host σ) (s : σ) (text : String) :
  Blocks.start.Follows (h.braces s text) (h.scan s text).machine.blocks
  := by
  apply Scan.follows_feed h (Scan.start s) text.toList

/-- As many blocks are open as opening braces were taken and not closed. -/
theorem depth_scan (h : Host σ) (s : σ) (text : String) :
  (h.scan s text).machine.blocks.depth + (h.braces s text).count '\x7d'
    = (h.braces s text).count '\x7b'
  := by
  have hdepth := (follows_scan h s text).depth
  rw [hdepth]
  apply Nat.zero_add

/-! ### Matching braces -/

/-- An opening brace after `p` matches a closing brace after `p`, that brace and `t`: the run
takes the opening brace, and the braces that it takes in `t` are balanced. -/
def Matches (h : Host σ) (s : σ) (p t : String) : Prop :=
  (h.scan s p).takesBrace h '\x7b' = true
    ∧ Balanced ((h.scan s (p.push '\x7b')).braces h t.toList)

/-- Where a block is open, some opening brace has no closing brace yet. -/
theorem exists_matches (h : Host σ) (s : σ) {q : String}
    (hdepth : 0 < (h.scan s q).machine.blocks.depth) :
  ∃ p t, q = p.push '\x7b' ++ t ∧ h.Matches s p t
  := by
  obtain ⟨front, inner, hbraces, balanced⟩ := (follows_scan h s q).exists_opening hdepth
  obtain ⟨p, t, hq, htakes, hinner⟩ := Scan.exists_of_braces hbraces
  use String.ofList p, String.ofList t
  constructor
  · apply String.toList_injective
    simp [hq]
  · constructor
    · rw [scan, String.toList_ofList]
      apply htakes
    · rw [scan_push, scan, String.toList_ofList, String.toList_ofList, hinner]
      apply balanced

/-- After a closing brace the open blocks are those from before the opening brace that matches. -/
theorem toList_of_matches (h : Host σ) (s : σ) {p t : String} (matching : h.Matches s p t)
    (takes : (h.scan s (p.push '\x7b' ++ t)).takesBrace h '\x7d' = true) :
  (h.scan s ((p.push '\x7b' ++ t).push '\x7d')).machine.blocks.toList
    = (h.scan s p).machine.blocks.toList
  := by
  obtain ⟨hopen, balanced⟩ := matching
  rcases Scan.entered_step h (h.scan s p) '\x7b' with ⟨-, -, active, henter, -⟩ | ⟨hnot, -, -⟩
  · obtain ⟨closed, hleave⟩ := Scan.leave?_of_takesBrace takes
    -- Before the closing brace the block that the opening brace entered is current again.
    have hinside : (h.scan s (p.push '\x7b' ++ t)).machine.blocks.toList
        = (h.scan s (p.push '\x7b')).machine.blocks.toList := by
      rw [scan_append]
      apply (Scan.follows_feed h _ _).toList_of_balanced balanced
    rw [scan_push h s p, henter, Blocks.toList_enter, Blocks.toList_eq_of_leave? hleave] at hinside
    rw [scan_push h s (p.push '\x7b' ++ t)]
    apply (List.cons.inj hinside).2
  · apply absurd ⟨rfl, hopen⟩ hnot

/-! ### Closing braces without a block -/

/-- A run is refused at the end of a block exactly at a closing brace that is read freely when
only the root is open. -/
theorem refused_close_iff (h : Host σ) (s : σ) (text : String) (place : Position) :
  (h.scan s text).Refused .closeWithoutBlock place ↔ ∃ p t, text = p.push '\x7d' ++ t
    ∧ (h.scan s p).halt = none ∧ (h.scan s p).lexer.mode = .free
    ∧ (h.scan s p).machine.blocks.depth = 0 ∧ place = (h.scan s p).place
  := by
  constructor
  · intro refused
    induction text using String.push_induction with
    | empty => cases refused
    | push text c ih =>
      rw [scan_push] at refused
      by_cases running : (h.scan s text).halt = none
      · cases Scan.accounts_step h running c with
        | spares takes spares => apply absurd refused (spares.halt place)
        | enters active takes blocks entered =>
          apply absurd refused
          apply Scan.not_refused_of_running (Scan.takesBrace_iff.mp takes).2.2
        | leaves takes hleave entered =>
          apply absurd refused
          apply Scan.not_refused_of_running (Scan.takesBrace_iff.mp takes).2.2
        | refuses takes hmode hdepth blocks entered refused' =>
          cases refused.symm.trans refused'
          use text, ""
          rw [String.append_empty]
          exact ⟨rfl, running, hmode, hdepth, rfl⟩
      · rw [Scan.step_of_halt h (Option.isSome_iff_ne_none.mpr running)] at refused
        obtain ⟨p, t, rfl, hp⟩ := ih refused
        use p, t.push c
        rw [Text.append_push]
        exact ⟨rfl, hp⟩
  · rintro ⟨p, t, rfl, running, hmode, hdepth, rfl⟩
    have refused : (h.scan s (p.push '\x7d')).Refused .closeWithoutBlock (h.scan s p).place := by
      rw [scan_push, Scan.step_close_of_root h running hmode hdepth]
      rfl
    rw [scan_append, Scan.feed_of_halt h refused.isSome]
    apply refused

end Host

/-! ### Open blocks at the end -/

/-- Nothing is wrong at the end of a text in a comment, or where neither a component nor a
character that is not blank is waiting outside a literal. -/
theorem Lexer.finish_eq_none_iff {l : Lexer} {assembling : Bool} :
  l.finish assembling = none ↔ l.mode = .comment
    ∨ (l.mode = .free ∨ l.mode = .variable) ∧ assembling = false ∧ l.buffer.isBlank = true
  := by
  rw [finish.eq_def]
  split
  · rename_i hmode
    simp [hmode]
  · rename_i hmode
    simp [hmode]
  · rename_i hmode
    simp [hmode]
  · rename_i hmode
    simp [hmode]

namespace Scan

/-- Whether a run that was not stopped completes depends on lexer and components, and not on the
blocks that are still open. -/
theorem result_eq_completed_iff {s : Scan σ} (running : s.halt = none) :
  s.result = .ok .completed ↔ s.lexer.mode = .comment
    ∨ (s.lexer.mode = .free ∨ s.lexer.mode = .variable)
      ∧ s.machine.pending = [] ∧ ∀ c ∈ s.lexer.buffer.toList, Text.isBlank c = true
  := by
  rw [← Machine.assembling_eq_false_iff, ← Buffer.isBlank_iff, ← Lexer.finish_eq_none_iff, result,
    running]
  cases s.lexer.finish s.machine.assembling with
  | none => simp
  | some kind => simp

/-- A text is malformed where it was read when the run was refused there. -/
theorem result_eq_malformed_iff {s : Scan σ} {kind : Malformation} (final : kind.isFinal)
    (place : Position) :
  s.result = .error (.malformed kind place) ↔ s.Refused kind place
  := by
  constructor
  · intro hresult
    have hfinal : isFinal s.result = true := by
      rw [hresult]
      apply final
    obtain ⟨reason, hreason⟩ := Option.isSome_iff_exists.mp (halt_of_isFinal hfinal)
    rw [result, hreason] at hresult
    cases reason with
    | aborted => cases hresult
    | failed error =>
      cases hresult
      apply hreason
  · intro refused
    rw [result, refused]

end Scan

/-! ### Accounting for blocks -/

/-- The braces that a run takes, those that are read freely and not refused, account for its
blocks. As many blocks are open as opening braces were taken and not closed, and a character of a
literal, a comment or a name leaves the open blocks alone. An opening brace that is taken enters
one block, whether the current one is active or not, and nothing else does. A text is refused at
the end of a block exactly at a closing brace that is read freely when as many braces of either
kind have been taken. A closing brace that is taken has an opening brace that matches, and gives
back the blocks, with their numbers and activations, that were open before it. And blocks that are
open at the end of a text are no error. -/
theorem Host.scan_accounts_for_blocks (h : Host σ) (s : σ) :
  (∀ text, (h.scan s text).machine.blocks.depth + (h.braces s text).count '\x7d'
      = (h.braces s text).count '\x7b')
    ∧ (∀ p c, (h.scan s p).lexer.mode ≠ .free →
      (h.scan s (p.push c)).machine.blocks = (h.scan s p).machine.blocks)
    ∧ (∀ p c,
      (c = '\x7b' ∧ (h.scan s p).takesBrace h c = true ∧ ∃ active,
        (h.scan s (p.push c)).machine.blocks = (h.scan s p).machine.blocks.enter active
        ∧ (h.scan s (p.push c)).entered
          = (h.scan s p).entered ++ [(h.scan s (p.push c)).machine.blocks.current])
      ∨ (¬ (c = '\x7b' ∧ (h.scan s p).takesBrace h c = true)
        ∧ (h.scan s (p.push c)).entered = (h.scan s p).entered
        ∧ (h.scan s (p.push c)).machine.blocks.nextId = (h.scan s p).machine.blocks.nextId))
    ∧ (∀ text place, (h.scan s text).result = .error (.malformed .closeWithoutBlock place) ↔
      ∃ p t, text = p.push '\x7d' ++ t ∧ (h.scan s p).halt = none
        ∧ (h.scan s p).lexer.mode = .free
        ∧ (h.braces s p).count '\x7b' = (h.braces s p).count '\x7d'
        ∧ place = (h.scan s p).place)
    ∧ (∀ q, (h.scan s q).takesBrace h '\x7d' = true →
      ∃ p t, q = p.push '\x7b' ++ t ∧ h.Matches s p t)
    ∧ (∀ p t, h.Matches s p t → (h.scan s (p.push '\x7b' ++ t)).takesBrace h '\x7d' = true →
      (h.scan s ((p.push '\x7b' ++ t).push '\x7d')).machine.blocks.toList
        = (h.scan s p).machine.blocks.toList)
    ∧ ∀ text, (h.scan s text).halt = none →
      ((h.scan s text).result = .ok .completed ↔ (h.scan s text).lexer.mode = .comment
        ∨ ((h.scan s text).lexer.mode = .free ∨ (h.scan s text).lexer.mode = .variable)
          ∧ (h.scan s text).machine.pending = []
          ∧ ∀ c ∈ (h.scan s text).lexer.buffer.toList, Text.isBlank c = true)
  := by
  and_intros
  · apply depth_scan
  · intro p c hmode
    rw [scan_push]
    by_cases running : (h.scan s p).halt = none
    · have spares := Scan.spares_step h running (c := c) (fun hbrace => hmode hbrace.1)
      apply spares.blocks
    · rw [Scan.step_of_halt h (Option.isSome_iff_ne_none.mpr running)]
  · intro p c
    rw [scan_push]
    apply Scan.entered_step
  · intro text place
    have hequal (p : String) : (h.scan s p).machine.blocks.depth = 0
        ↔ (h.braces s p).count '\x7b' = (h.braces s p).count '\x7d' := by
      have hdepth := depth_scan h s p
      omega
    rw [Scan.result_eq_malformed_iff rfl, refused_close_iff]
    simp only [hequal]
  · intro q takes
    obtain ⟨closed, hleave⟩ := Scan.leave?_of_takesBrace takes
    apply exists_matches
    rw [Blocks.depth_of_leave? hleave]
    apply Nat.succ_pos
  · intro p t matching takes
    apply toList_of_matches h s matching takes
  · intro text running
    apply Scan.result_eq_completed_iff running

/-- A block with a block and a brace in a literal inside it gives back the root, and a text may
end inside a block. -/
theorem Host.scan_accounts_for_blocks_nested :
  let h := Host.fixed none { result := .bool true }
  let t := " b \x7b c; \x7d '\x7d'; "
  ((h.scan () "a '").lexer.mode ≠ .free
      ∧ (h.scan () ("a '".push '\x7b')).machine.blocks = (h.scan () "a '").machine.blocks)
    ∧ (h.Matches () "a " t ∧ (h.scan () ("a ".push '\x7b' ++ t)).takesBrace h '\x7d' = true
      ∧ (h.scan () (("a ".push '\x7b' ++ t).push '\x7d')).machine.blocks.toList
        = (h.scan () "a ").machine.blocks.toList)
    ∧ (h.scan () "a \x7b").machine.blocks.depth = 1
    ∧ (h.scan () "a \x7b").halt = none ∧ (h.scan () "a \x7b").result = .ok .completed
  := by
  intro h t
  have hmode : (h.scan () "a '").lexer.mode ≠ .free := by decide +kernel
  have hbraces : (h.scan () ("a ".push '\x7b')).braces h t.toList = ['\x7b', '\x7d'] := by
    decide +kernel
  have matching : h.Matches () "a " t := by
    constructor
    · decide +kernel
    · rw [hbraces]
      apply Balanced.enclose Balanced.nil
  have takes : (h.scan () ("a ".push '\x7b' ++ t)).takesBrace h '\x7d' = true := by
    decide +kernel
  have hdepth : (h.scan () "a \x7b").machine.blocks.depth = 1 := by decide +kernel
  have running : (h.scan () "a \x7b").halt = none := by decide +kernel
  have hlexer : (h.scan () "a \x7b").lexer = .start := by decide +kernel
  have hpending : (h.scan () "a \x7b").machine.pending = [] :=
    Machine.assembling_eq_false_iff.mp (by decide +kernel)
  obtain ⟨-, hother, -, -, -, hrestore, hcompleted⟩ := scan_accounts_for_blocks h ()
  refine ⟨⟨hmode, hother _ _ hmode⟩, ⟨matching, takes, hrestore _ _ matching takes⟩, hdepth,
    running, (hcompleted _ running).mpr (.inr ?_)⟩
  rw [hlexer]
  exact ⟨.inl rfl, hpending, by simp [Lexer.start]⟩

end GuardedScript
