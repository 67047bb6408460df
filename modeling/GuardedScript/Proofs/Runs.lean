import GuardedScript.Scan
import Mathlib.Tactic.Use

/-!
# Runs, character by character

What one character can do to a run. A character completes components of the instruction under
way, and after them at most one *mark*: the end of an instruction, the beginning or the end of a
block, or the beginning of a comment. The mark is the character itself. Components ask the host
for the values of variables and do nothing else, so instructions are dispatched and blocks
entered and left by marks alone.

What holds at the beginning of a run and is kept by every character holds after every text.
-/

universe u

namespace GuardedScript

variable {σ : Type u}

/-! ### Tokens of a character -/

/-- The character that the token is, unless the token is a component. -/
def Token.mark? : Token → Option Char
  | word _ => none
  | literal _ => none
  | reference _ => none
  | stop => some ';'
  | enter => some '\x7b'
  | leave => some '\x7d'
  | comment => some '#'

namespace Lexer

/-- Tokens that a character `c` may complete: components, and after them at most the mark that
`c` itself is. -/
def Completes (c : Char) (tokens : List Token) : Prop :=
  ∃ front : List Token, ∃ last : Option Token, tokens = front ++ last.toList
    ∧ (∀ t ∈ front, t.mark? = none) ∧ ∀ t ∈ last, t.mark? = some c

theorem completes_nil (c : Char) :
  Completes c []
  := by
  use [], none
  simp

/-- A character may complete one component. -/
theorem completes_component (c : Char) {t : Token} (h : t.mark? = none) :
  Completes c [t]
  := by
  use [t], none
  simpa using h

/-- A character may be a mark. -/
theorem completes_mark {c : Char} {t : Token} (h : t.mark? = some c) :
  Completes c [t]
  := by
  use [], some t
  simpa using h

/-- A mark among the tokens that a character may complete is the character. -/
theorem Completes.mark_eq {c d : Char} {tokens : List Token} (h : Completes c tokens) {t : Token}
    (ht : t ∈ tokens) (mark : t.mark? = some d) :
  d = c
  := by
  obtain ⟨front, last, rfl, hfront, hlast⟩ := h
  rcases List.mem_append.mp ht with ht | ht
  · rw [hfront t ht] at mark
    cases mark
  · rw [hlast t (Option.mem_toList.mp ht)] at mark
    apply (Option.some.inj mark).symm

/-- The word that waits in a buffer is a component. -/
theorem mark?_of_mem_wordToken {b : Buffer} {t : Token} (h : t ∈ wordToken b) :
  t.mark? = none
  := by
  obtain ⟨text, -, rfl⟩ := List.mem_map.mp h
  rfl

/-- The word that waits in a buffer may be completed by any character. -/
theorem completes_wordToken (b : Buffer) (c : Char) :
  Completes c (wordToken b)
  := by
  use wordToken b, none
  constructor
  · simp
  · constructor
    · intro t
      apply mark?_of_mem_wordToken
    · simp

private theorem completes_of_ok {c : Char} {l next : Lexer} {tokens tokens' : List Token}
    (h : (Except.ok (l, tokens) : Except Malformation _) = .ok (next, tokens'))
    (ht : Completes c tokens) :
  Completes c tokens'
  := by
  obtain ⟨-, rfl⟩ := Prod.mk.inj (Except.ok.inj h)
  apply ht

theorem completes_stepFree {b : Buffer} {c : Char} {next : Lexer} {tokens : List Token}
    (h : stepFree b c = .ok (next, tokens)) :
  Completes c tokens
  := by
  rw [stepFree.eq_def] at h
  split at h
  · apply completes_of_ok h
    use wordToken b, some .stop, rfl
    constructor
    · intro t
      apply mark?_of_mem_wordToken
    · rintro t ⟨⟩
      rfl
  · split at h
    · apply completes_of_ok h (completes_nil _)
    · apply completes_of_ok h (completes_wordToken b _)
  · apply completes_of_ok h (completes_nil _)
  · split at h
    · apply completes_of_ok h (completes_mark rfl)
    · cases h
  · apply completes_of_ok h (completes_mark rfl)
  · apply completes_of_ok h (completes_mark rfl)
  · apply completes_of_ok h (completes_nil _)
  · apply completes_of_ok h (completes_nil _)
  · split at h
    · apply completes_of_ok h (completes_nil _)
    · cases h
  · apply completes_of_ok h (completes_nil _)

theorem completes_stepLiteral (quote : Quote) (escaped : Bool) (b : Buffer) (c : Char) :
  Completes c (stepLiteral quote escaped b c).2
  := by
  rw [stepLiteral]
  split
  · apply completes_nil
  · split
    · apply completes_nil
    · split
      · apply completes_component c rfl
      · apply completes_nil

theorem completes_stepVariable (b : Buffer) (c : Char) :
  Completes c (stepVariable b c).2
  := by
  rw [stepVariable.eq_def]
  split
  · apply completes_component _ rfl
  · apply completes_component _ rfl
  · use [.reference b.text], some .stop
    simp [Token.mark?]
  · apply completes_nil

/-- A character completes components, and after them at most the mark that it is itself. -/
theorem completes_step {l next : Lexer} {c : Char} {tokens : List Token}
    (h : l.step c = .ok (next, tokens)) :
  Completes c tokens
  := by
  rw [step.eq_def] at h
  split at h
  · apply completes_of_ok h (completes_stepLiteral _ _ _ _)
  · split at h
    · apply completes_of_ok h (completes_nil c)
    · apply completes_stepFree h
  · split at h
    · apply completes_of_ok h (completes_nil c)
    · apply completes_of_ok h (completes_nil c)
  · split at h
    · apply completes_of_ok h (completes_nil c)
    · apply completes_of_ok h (completes_stepVariable _ c)

/-- A mark is read freely, or it is the end of an instruction and ends a variable. -/
theorem mode_of_mark {l next : Lexer} {c d : Char} {tokens : List Token}
    (h : l.step c = .ok (next, tokens)) {t : Token} (ht : t ∈ tokens) (mark : t.mark? = some d) :
  l.mode = .free ∨ l.mode = .variable ∧ t = .stop
  := by
  rw [step.eq_def] at h
  split at h
  · rename_i quote escaped hliteral
    have hcomponent : ∀ t ∈ (stepLiteral quote escaped l.buffer c).2, t.mark? = none := by
      rw [stepLiteral]
      grind [Token.mark?]
    rw [Except.ok.inj h] at hcomponent
    rw [hcomponent t ht] at mark
    cases mark
  · rename_i hfree
    apply Or.inl hfree
  · split at h
    · cases h
      cases ht
    · cases h
      cases ht
  · rename_i hvariable
    right
    use hvariable
    split at h
    · cases h
      cases ht
    · have hstop : ∀ t ∈ (stepVariable l.buffer c).2, t.mark? = none ∨ t = .stop := by
        rw [stepVariable.eq_def]
        grind [Token.mark?]
      rw [Except.ok.inj h] at hstop
      rcases hstop t ht with hnone | rfl
      · rw [hnone] at mark
        cases mark
      · rfl

theorem alone_of_stepFree {b : Buffer} {c : Char} {next : Lexer} {tokens : List Token}
    (h : stepFree b c = .ok (next, tokens)) :
  (∀ t ∈ tokens, t.mark? = none ∨ t = .stop) ∨ ∃ t, tokens = [t]
  := by
  have hword : ∀ t ∈ wordToken b, t.mark? = none := by
    intro t
    apply mark?_of_mem_wordToken
  rw [stepFree.eq_def] at h
  grind

/-- A character completes components and at most the end of an instruction after them, unless it
completes one token alone. -/
theorem components_or_alone {l next : Lexer} {c : Char} {tokens : List Token}
    (h : l.step c = .ok (next, tokens)) :
  (∀ t ∈ tokens, t.mark? = none ∨ t = .stop) ∨ ∃ t, tokens = [t]
  := by
  by_cases hfree : l.mode = .free
  · rw [step.eq_def, hfree] at h
    dsimp only at h
    split at h
    · cases h
      exact .inl (List.forall_mem_nil _)
    · apply alone_of_stepFree h
  · left
    intro t ht
    cases mark : t.mark? with
    | none => exact .inl rfl
    | some d =>
      rcases mode_of_mark h ht mark with hfree' | ⟨-, hstop⟩
      · apply absurd hfree' hfree
      · exact .inr hstop

/-- What the lexer refuses: a comment or a variable that begins inside a word, read freely. -/
theorem error_cases {l : Lexer} {c : Char} {kind : Malformation} (h : l.step c = .error kind) :
  l.mode = .free
    ∧ (c = '#' ∧ kind = .commentInInstruction ∨ c = '$' ∧ kind = .variableInWord)
  := by
  rw [step.eq_def] at h
  split at h
  · cases h
  · rename_i hfree
    use hfree
    split at h
    · cases h
    · rw [stepFree.eq_def] at h
      grind
  · split at h
    · cases h
    · cases h
  · split at h
    · cases h
    · cases h

end Lexer

/-! ### What the host sees -/

/-- The host was asked to execute an instruction. -/
def Interaction.isCall : Interaction → Bool
  | lookup _ _ => false
  | call _ _ _ => true

/-- The variable that the host was asked for. -/
def Interaction.name? : Interaction → Option String
  | lookup name _ => some name
  | call _ _ _ => none

/-- An event that ends no instruction asks the host for a variable at most. -/
theorem Event.isCall_eq_false {e : Event} {i : Interaction} (hended : e.ended? = none)
    (hi : e.interaction? = some i) :
  i.isCall = false
  := by
  cases e with
  | lookup name value? =>
    cases hi
    rfl
  | dispatched d => cases hended
  | word text => cases hi
  | literal text => cases hi
  | entered block depth => cases hi
  | left closed current => cases hi

namespace Scan

/-- The instructions that the host has executed, in order. -/
def calls (s : Scan σ) : List Interaction :=
  s.interactions.filter Interaction.isCall

/-- The names of the variables that the host has been asked for, in order. -/
def names (s : Scan σ) : List String :=
  s.interactions.filterMap Interaction.name?

/-- The instructions that have ended, executed or not, in order. -/
def ended (s : Scan σ) : List (List Value) :=
  s.events.filterMap Event.ended?

/-- What events add to what has passed between run and host. -/
theorem interactions_of_events {s s' : Scan σ} {new : List Event}
    (hnew : s'.events = s.events ++ new) :
  s'.interactions = s.interactions ++ new.filterMap Event.interaction?
  := by
  rw [interactions, hnew, List.filterMap_append]
  rfl

/-! ### Induction over a run -/

/-- The last character of a text is read after the others. -/
theorem feed_concat (h : Host σ) (s : Scan σ) (text : List Char) (c : Char) :
  s.feed h (text ++ [c]) = (s.feed h text).step h c
  := by
  rw [feed_append]
  rfl

/-- What every character keeps, every text keeps. -/
theorem feed_invariant (h : Host σ) {P : Scan σ → Prop} (hstep : ∀ s c, P s → P (s.step h c))
    {s : Scan σ} (hs : P s) (text : List Char) :
  P (s.feed h text)
  := by
  induction text generalizing s with
  | nil => apply hs
  | cons c rest ih =>
    rw [feed_cons]
    apply ih (hstep s c hs)

/-! ### Components -/

/-- A token is carried out by a run that has not stopped. -/
theorem carryOut_of_running (h : Host σ) {s : Scan σ} (running : s.halt = none) (t : Token) :
  s.carryOut h t =
    { s with
      machine := (s.machine.step h s.place t).machine
      trace := s.trace ++ (s.machine.step h s.place t).events
      halt := (s.machine.step h s.place t).halt }
  := by
  rw [carryOut, running]

/-- A token leaves lexer and place as they are. -/
theorem lexer_carryOut (h : Host σ) (s : Scan σ) (t : Token) :
  (s.carryOut h t).lexer = s.lexer ∧ (s.carryOut h t).place = s.place
  := by
  rw [carryOut]
  split
  · exact ⟨rfl, rfl⟩
  · exact ⟨rfl, rfl⟩

/-- Tokens leave the lexer as it is. -/
theorem lexer_foldl_carryOut (h : Host σ) (tokens : List Token) (s : Scan σ) :
  (tokens.foldl (carryOut h) s).lexer = s.lexer
  := by
  induction tokens generalizing s with
  | nil => rfl
  | cons t rest ih => rw [List.foldl_cons, ih, (lexer_carryOut h s t).1]

/-- A word is one more component. -/
theorem carryOut_word (h : Host σ) {s : Scan σ} (running : s.halt = none) (text : String) :
  s.carryOut h (.word text) =
    { s with
      machine := s.machine.push (.str text)
      trace := s.trace ++ [Event.word text] }
  := by
  rw [carryOut_of_running h running]
  simp [Machine.step, running]

/-- A literal is one more component. -/
theorem carryOut_literal (h : Host σ) {s : Scan σ} (running : s.halt = none) (text : String) :
  s.carryOut h (.literal text) =
    { s with
      machine := s.machine.push (.str text)
      trace := s.trace ++ [Event.literal text] }
  := by
  rw [carryOut_of_running h running]
  simp [Machine.step, running]

/-- The value of a variable is one more component. -/
theorem carryOut_reference (h : Host σ) {s : Scan σ} (running : s.halt = none) {name : String}
    {v : Value} (found : h.lookup s.state name = some v) :
  s.carryOut h (.reference name) =
    { s with
      machine := s.machine.push v
      trace := s.trace ++ [Event.lookup name (some v)] }
  := by
  rw [state] at found
  rw [carryOut_of_running h running]
  simp [Machine.step, running, found]

/-- A variable without a value stops the run. -/
theorem carryOut_reference_of_none (h : Host σ) {s : Scan σ} (running : s.halt = none)
    {name : String} (missing : h.lookup s.state name = none) :
  s.carryOut h (.reference name) =
    { s with
      trace := s.trace ++ [Event.lookup name none]
      halt := some (.failed (.undefined name s.place)) }
  := by
  rw [state] at missing
  rw [carryOut_of_running h running]
  simp [Machine.step, missing]

/-- Tokens change nothing once the run has stopped. -/
theorem foldl_carryOut_of_halt (h : Host σ) {s : Scan σ} (stopped : s.halt.isSome)
    (tokens : List Token) :
  tokens.foldl (carryOut h) s = s
  := by
  induction tokens with
  | nil => rfl
  | cons t rest ih => rw [List.foldl_cons, carryOut_of_halt h stopped, ih]

/-- From `s` to `s'` the run has gathered components for the instruction under way. The host has
been asked for variables at most, and no instruction has ended; the run has gone on, or stopped
at a variable without a value. -/
structure Gathers (s s' : Scan σ) : Prop where
  state : s'.state = s.state
  blocks : s'.machine.blocks = s.machine.blocks
  events : ∃ new : List Event, s'.events = s.events ++ new ∧ ∀ e ∈ new, e.ended? = none
  halt : s'.halt = none ∨ ∃ name place, s'.halt = some (.failed (.undefined name place))

namespace Gathers

theorem refl {s : Scan σ} (running : s.halt = none) :
  s.Gathers s
  where
  state := rfl
  blocks := rfl
  events := ⟨[], by simp [Scan.events]⟩
  halt := .inl running

/-- Nothing is gathered when the run goes on. -/
theorem goOn {s s' : Scan σ} (g : s.Gathers s') (lexer : Lexer) (place : Position) :
  s.Gathers (s'.goOn lexer place)
  := by
  obtain ⟨lexer', place', hgo⟩ := s'.goOn_eq lexer place
  rw [hgo]
  exact ⟨g.state, g.blocks, g.events, g.halt⟩

theorem trans {s s' s'' : Scan σ} (first : s.Gathers s') (second : s'.Gathers s'') :
  s.Gathers s''
  where
  state := second.state.trans first.state
  blocks := second.blocks.trans first.blocks
  events := by
    obtain ⟨new, hnew, hended⟩ := first.events
    obtain ⟨new', hnew', hended'⟩ := second.events
    use new ++ new'
    constructor
    · rw [hnew', hnew, List.append_assoc]
    · intro e he
      rcases List.mem_append.mp he with he | he
      · apply hended e he
      · apply hended' e he
  halt := second.halt

/-- No instruction has ended. -/
theorem ended {s s' : Scan σ} (g : s.Gathers s') :
  s'.ended = s.ended
  := by
  obtain ⟨new, hnew, hended⟩ := g.events
  rw [Scan.ended, hnew, List.filterMap_append, List.filterMap_eq_nil_iff.mpr hended,
    List.append_nil]
  rfl

/-- The host has been asked for variables at most. -/
theorem interactions {s s' : Scan σ} (g : s.Gathers s') :
  ∃ new : List Interaction, s'.interactions = s.interactions ++ new
    ∧ ∀ i ∈ new, i.isCall = false
  := by
  obtain ⟨new, hnew, hended⟩ := g.events
  use new.filterMap Event.interaction?
  constructor
  · apply interactions_of_events hnew
  · intro i hi
    obtain ⟨e, he, hei⟩ := List.mem_filterMap.mp hi
    apply Event.isCall_eq_false (hended e he) hei

/-- No instruction has been executed. -/
theorem calls {s s' : Scan σ} (g : s.Gathers s') :
  s'.calls = s.calls
  := by
  obtain ⟨new, hnew, hcall⟩ := g.interactions
  have hfilter : new.filter Interaction.isCall = [] := by
    apply List.filter_eq_nil_iff.mpr
    intro i hi
    simp [hcall i hi]
  rw [Scan.calls, hnew, List.filter_append, hfilter, List.append_nil]
  rfl

end Gathers

/-- A component is gathered. -/
theorem gathers_carryOut (h : Host σ) {s : Scan σ} (running : s.halt = none) {t : Token}
    (component : t.mark? = none) :
  s.Gathers (s.carryOut h t)
  := by
  cases t with
  | word text =>
    rw [carryOut_word h running]
    exact ⟨rfl, rfl, ⟨[.word text], by simp [events, Event.ended?]⟩, .inl running⟩
  | literal text =>
    rw [carryOut_literal h running]
    exact ⟨rfl, rfl, ⟨[.literal text], by simp [events, Event.ended?]⟩, .inl running⟩
  | reference name =>
    cases hlookup : h.lookup s.state name with
    | some v =>
      rw [carryOut_reference h running hlookup]
      exact ⟨rfl, rfl, ⟨[.lookup name (some v)], by simp [events, Event.ended?]⟩, .inl running⟩
    | none =>
      rw [carryOut_reference_of_none h running hlookup]
      exact ⟨rfl, rfl, ⟨[.lookup name none], by simp [events, Event.ended?]⟩,
        .inr ⟨name, s.place, rfl⟩⟩
  | stop => cases component
  | enter => cases component
  | leave => cases component
  | comment => cases component

/-- Components are gathered one after the other. -/
theorem gathers_foldl_carryOut (h : Host σ) (front : List Token) {s : Scan σ}
    (running : s.halt = none) (components : ∀ t ∈ front, t.mark? = none) :
  s.Gathers (front.foldl (carryOut h) s)
  := by
  induction front generalizing s with
  | nil => apply Gathers.refl running
  | cons t rest ih =>
    obtain ⟨component, components⟩ := List.forall_mem_cons.mp components
    have first := gathers_carryOut h running component
    rw [List.foldl_cons]
    by_cases hhalt : (s.carryOut h t).halt = none
    · apply first.trans (ih hhalt components)
    · rw [foldl_carryOut_of_halt h (Option.isSome_iff_ne_none.mpr hhalt)]
      apply first

/-! ### Marks -/

/-- The run stops because its text is malformed at the place it has reached. -/
def refuse (s : Scan σ) (kind : Malformation) : Scan σ :=
  { s with halt := some (.failed (.malformed kind s.place)) }

/-- The instruction under way ends, as a guard or not. -/
theorem carryOut_stop (h : Host σ) {s : Scan σ} (running : s.halt = none) :
  s.carryOut h .stop =
    { s with
      machine := (s.machine.dispatch h false).2
      trace := s.trace ++ [Event.dispatched (s.machine.dispatch h false).1]
      halt := if (s.machine.dispatch h false).1.aborts then some .aborted else none }
  := by
  rw [carryOut_of_running h running]
  rfl

/-- A block begins behind its guard. -/
theorem carryOut_enter (h : Host σ) {s : Scan σ} (running : s.halt = none)
    (assembling : s.machine.assembling = true) {blocks : Blocks}
    (hblocks : blocks = s.machine.blocks.enter (s.machine.dispatch h true).1.truthy) :
  s.carryOut h .enter =
    { s with
      machine := { (s.machine.dispatch h true).2 with blocks }
      trace := s.trace ++ [Event.dispatched (s.machine.dispatch h true).1,
        Event.entered blocks.current blocks.depth] }
  := by
  subst hblocks
  rw [carryOut_of_running h running]
  simp [Machine.step, assembling, running]

/-- A block does not begin without a guard. -/
theorem carryOut_enter_of_idle (h : Host σ) {s : Scan σ} (running : s.halt = none)
    (idle : s.machine.assembling = false) :
  s.carryOut h .enter = s.refuse .blockWithoutGuard
  := by
  rw [carryOut_of_running h running]
  simp [Machine.step, Machine.refuse, refuse, idle]

/-- The current block ends. -/
theorem carryOut_leave (h : Host σ) {s : Scan σ} (running : s.halt = none) {closed : Block}
    {blocks : Blocks} (hleave : s.machine.blocks.leave? = some (closed, blocks)) :
  s.carryOut h .leave =
    { s with
      machine := { s.machine with blocks }
      trace := s.trace ++ [Event.left closed blocks.current] }
  := by
  rw [carryOut_of_running h running]
  simp [Machine.step, hleave, running]

/-- The root does not end. -/
theorem carryOut_leave_of_root (h : Host σ) {s : Scan σ} (running : s.halt = none)
    (hleave : s.machine.blocks.leave? = none) :
  s.carryOut h .leave = s.refuse .closeWithoutBlock
  := by
  rw [carryOut_of_running h running]
  simp [Machine.step, Machine.refuse, refuse, hleave]

/-- A comment between instructions does nothing. -/
theorem carryOut_comment (h : Host σ) {s : Scan σ} (running : s.halt = none)
    (idle : s.machine.assembling = false) :
  s.carryOut h .comment = s
  := by
  rw [carryOut_of_running h running]
  simp [Machine.step, idle, ← running]

/-- A comment does not begin inside an instruction. -/
theorem carryOut_comment_of_assembling (h : Host σ) {s : Scan σ} (running : s.halt = none)
    (assembling : s.machine.assembling = true) :
  s.carryOut h .comment = s.refuse .commentInInstruction
  := by
  rw [carryOut_of_running h running]
  simp [Machine.step, Machine.refuse, refuse, assembling]

/-- What the mark `c` makes of a run `s`: the text is refused there, or a comment begins, or the
instruction under way ends, or a block begins behind its guard, or a block ends. -/
inductive Marked (h : Host σ) (s m : Scan σ) : Char → Prop
  | refuse {c : Char} (kind : Malformation) (place : Position)
    (machine : m.machine = s.machine) (events : m.events = s.events)
    (halt : m.halt = some (.failed (.malformed kind place))) :
    Marked h s m c
  | comment (machine : m.machine = s.machine) (events : m.events = s.events)
    (halt : m.halt = none) :
    Marked h s m '#'
  | stop (machine : m.machine = (s.machine.dispatch h false).2)
    (events : m.events = s.events ++ [.dispatched (s.machine.dispatch h false).1])
    (halt : m.halt = if (s.machine.dispatch h false).1.aborts then some .aborted else none) :
    Marked h s m ';'
  | enter {blocks : Blocks}
    (hblocks : blocks = s.machine.blocks.enter (s.machine.dispatch h true).1.truthy)
    (machine : m.machine = { (s.machine.dispatch h true).2 with blocks })
    (events : m.events = s.events ++ [.dispatched (s.machine.dispatch h true).1,
      .entered blocks.current blocks.depth])
    (halt : m.halt = none) :
    Marked h s m '\x7b'
  | leave {closed : Block} {blocks : Blocks}
    (hleave : s.machine.blocks.leave? = some (closed, blocks))
    (machine : m.machine = { s.machine with blocks })
    (events : m.events = s.events ++ [.left closed blocks.current]) (halt : m.halt = none) :
    Marked h s m '\x7d'

/-- A token that is a mark does to a run what the mark does. -/
theorem marked_carryOut (h : Host σ) {s : Scan σ} (running : s.halt = none) {t : Token} {c : Char}
    (mark : t.mark? = some c) (lexer : Lexer) (place : Position) :
  Marked h s { s.carryOut h t with lexer, place } c
  := by
  cases t with
  | word text => cases mark
  | literal text => cases mark
  | reference name => cases mark
  | stop =>
    cases mark
    rw [carryOut_stop h running]
    exact Marked.stop rfl (by simp [events]) rfl
  | enter =>
    cases mark
    cases assembling : s.machine.assembling with
    | true =>
      rw [carryOut_enter h running assembling rfl]
      exact Marked.enter rfl rfl (by simp [events]) running
    | false =>
      rw [carryOut_enter_of_idle h running assembling]
      exact Marked.refuse _ _ rfl rfl rfl
  | leave =>
    cases mark
    cases hleave : s.machine.blocks.leave? with
    | none =>
      rw [carryOut_leave_of_root h running hleave]
      exact Marked.refuse _ _ rfl rfl rfl
    | some left =>
      rw [carryOut_leave h running hleave]
      exact Marked.leave hleave rfl (by simp [events]) running
  | comment =>
    cases mark
    cases assembling : s.machine.assembling with
    | true =>
      rw [carryOut_comment_of_assembling h running assembling]
      exact Marked.refuse _ _ rfl rfl rfl
    | false =>
      rw [carryOut_comment h running assembling]
      exact Marked.comment rfl rfl running

/-! ### One character -/

/-- A character that the lexer refuses stops the run there. -/
theorem step_of_error (h : Host σ) {s : Scan σ} (running : s.halt = none) {c : Char}
    {kind : Malformation} (hlex : s.lexer.step c = .error kind) :
  s.step h c = s.refuse kind
  := by
  simp [step, running, hlex, refuse]

/-- The tokens that a character completes are carried out in order, and the run goes on. -/
theorem step_of_ok (h : Host σ) {s : Scan σ} (running : s.halt = none) {c : Char}
    {lexer : Lexer} {tokens : List Token} (hlex : s.lexer.step c = .ok (lexer, tokens)) :
  s.step h c = (tokens.foldl (carryOut h) s).goOn lexer (s.place.advance c)
  := by
  simp [step, running, hlex]

theorem accepted_of_running {s : Scan σ} (running : s.halt = none) :
  s.Accepted
  := by
  intro kind place hhalt
  cases running.symm.trans hhalt

/-- A component is not refused. -/
theorem Gathers.accepted {s s' : Scan σ} (g : s.Gathers s') :
  s'.Accepted
  := by
  intro kind place hhalt
  rcases g.halt with running | ⟨name, place', undefined⟩
  · cases running.symm.trans hhalt
  · cases undefined.symm.trans hhalt

/-- A character that completes no token moves the run on. -/
theorem step_of_quiet (h : Host σ) {s : Scan σ} (running : s.halt = none) {c : Char}
    {lexer : Lexer} (hlex : s.lexer.step c = .ok (lexer, [])) :
  s.step h c = { s with lexer, place := s.place.advance c }
  := by
  rw [step_of_ok h running hlex, List.foldl_nil, goOn_of_running running]

/-- A character that completes one token moves the run on, if it goes on behind the token. -/
theorem step_of_token (h : Host σ) {s : Scan σ} (running : s.halt = none) {c : Char}
    {lexer : Lexer} {t : Token} (hlex : s.lexer.step c = .ok (lexer, [t]))
    (goes : (s.carryOut h t).halt = none) :
  s.step h c = { s.carryOut h t with lexer, place := s.place.advance c }
  := by
  rw [step_of_ok h running hlex, List.foldl_cons, List.foldl_nil, goOn_of_running goes]

/-- A character that completes a token where it is refused is refused. -/
theorem step_of_refused (h : Host σ) {s : Scan σ} (running : s.halt = none) {c : Char}
    {lexer : Lexer} {t : Token} (hlex : s.lexer.step c = .ok (lexer, [t])) {kind : Malformation}
    (refused : s.carryOut h t = s.refuse kind) :
  s.step h c = s.refuse kind
  := by
  rw [step_of_ok h running hlex, List.foldl_cons, List.foldl_nil, refused]
  rfl

/-- The end of an instruction is not refused. -/
theorem accepted_carryOut_stop (h : Host σ) {s : Scan σ} (running : s.halt = none) :
  (s.carryOut h .stop).Accepted
  := by
  rw [carryOut_stop h running]
  intro kind place hhalt
  dsimp only at hhalt
  split at hhalt
  · cases hhalt
  · cases hhalt

/-- Components and the end of an instruction are not refused. -/
theorem accepted_foldl_carryOut (h : Host σ) {tokens : List Token}
    (htokens : ∀ t ∈ tokens, t.mark? = none ∨ t = .stop) {s : Scan σ} (running : s.halt = none) :
  (tokens.foldl (carryOut h) s).Accepted
  := by
  induction tokens generalizing s with
  | nil => apply accepted_of_running running
  | cons t rest ih =>
    obtain ⟨ht, hrest⟩ := List.forall_mem_cons.mp htokens
    rw [List.foldl_cons]
    by_cases goes : (s.carryOut h t).halt = none
    · apply ih hrest goes
    · rw [foldl_carryOut_of_halt h (Option.isSome_iff_ne_none.mpr goes)]
      rcases ht with component | rfl
      · apply (gathers_carryOut h running component).accepted
      · apply accepted_carryOut_stop h running

/-- A token is refused and changes nothing else, or it is not refused. -/
theorem carryOut_cases (h : Host σ) {s : Scan σ} (running : s.halt = none) (t : Token) :
  (s.carryOut h t).Accepted ∨ ∃ kind, s.carryOut h t = s.refuse kind
  := by
  cases t with
  | word text => exact .inl (gathers_carryOut h running rfl).accepted
  | literal text => exact .inl (gathers_carryOut h running rfl).accepted
  | reference name => exact .inl (gathers_carryOut h running rfl).accepted
  | stop => exact .inl (accepted_carryOut_stop h running)
  | enter =>
    cases assembling : s.machine.assembling with
    | true =>
      rw [carryOut_enter h running assembling rfl]
      exact .inl (accepted_of_running running)
    | false => exact .inr ⟨_, carryOut_enter_of_idle h running assembling⟩
  | leave =>
    cases hleave : s.machine.blocks.leave? with
    | some left =>
      rw [carryOut_leave h running hleave]
      exact .inl (accepted_of_running running)
    | none => exact .inr ⟨_, carryOut_leave_of_root h running hleave⟩
  | comment =>
    cases assembling : s.machine.assembling with
    | false =>
      rw [carryOut_comment h running assembling]
      exact .inl (accepted_of_running running)
    | true => exact .inr ⟨_, carryOut_comment_of_assembling h running assembling⟩

/-- The tokens that a character completes are carried out in order, and the run goes on with the
lexer at the place after the character; or the text is refused at the character, and nothing else
has changed. -/
theorem step_of_ok_cases (h : Host σ) {s : Scan σ} (running : s.halt = none) {c : Char}
    {lexer : Lexer} {tokens : List Token} (hlex : s.lexer.step c = .ok (lexer, tokens)) :
  (tokens.foldl (carryOut h) s).Accepted
      ∧ s.step h c = { tokens.foldl (carryOut h) s with lexer, place := s.place.advance c }
    ∨ ∃ kind, s.step h c = s.refuse kind
  := by
  -- Only a token that stands alone is refused, so nothing was carried out before it.
  rcases Lexer.components_or_alone hlex with htokens | ⟨t, rfl⟩
  · left
    have accepted := accepted_foldl_carryOut h htokens running
    use accepted
    rw [step_of_ok h running hlex, goOn_of_accepted accepted]
  · rcases carryOut_cases h running t with accepted | ⟨kind, refused⟩
    · left
      use accepted
      rw [step_of_ok h running hlex, List.foldl_cons, List.foldl_nil, goOn_of_accepted accepted]
    · exact .inr ⟨kind, step_of_refused h running hlex refused⟩

/-- A run that goes on does so with the lexer, at the place after the character. -/
theorem step_of_goesOn (h : Host σ) {s : Scan σ} (running : s.halt = none) {c : Char}
    {lexer : Lexer} {tokens : List Token} (hlex : s.lexer.step c = .ok (lexer, tokens))
    (goes : (s.step h c).halt = none) :
  s.step h c = { tokens.foldl (carryOut h) s with lexer, place := s.place.advance c }
  := by
  rw [step_of_ok h running hlex] at goes ⊢
  rw [halt_goOn] at goes
  rw [goOn_of_running goes]

/-- A run that goes on has moved to the place after the character. -/
theorem place_step (h : Host σ) {s : Scan σ} {c : Char} (running : (s.step h c).halt = none) :
  (s.step h c).place = s.place.advance c
  := by
  by_cases before : s.halt = none
  · cases hlex : s.lexer.step c with
    | error kind =>
      rw [step_of_error h before hlex] at running
      cases running
    | ok read => rw [step_of_goesOn h before hlex running]
  · rw [step_of_halt h (Option.isSome_iff_ne_none.mpr before)] at running
    apply absurd running before

/-- A run that goes on has moved to the place after the text. -/
theorem place_feed (h : Host σ) {s : Scan σ} {text : List Char}
    (running : (s.feed h text).halt = none) :
  (s.feed h text).place = s.place.after text
  := by
  induction text generalizing s with
  | nil => rfl
  | cons c rest ih =>
    rw [feed_cons] at running ⊢
    by_cases before : (s.step h c).halt = none
    · rw [ih running, place_step h before, Position.after_cons]
    · rw [feed_of_halt h (Option.isSome_iff_ne_none.mpr before)] at running
      apply absurd running before

/-- A character that comes to a run that has not stopped completes components, which are carried
out and so gathered; and if the run goes on, then the character may be a mark. -/
theorem step_parts (h : Host σ) {s : Scan σ} (running : s.halt = none) (c : Char) :
  ∃ (front : List Token) (g : Scan σ), (∀ t ∈ front, t.mark? = none)
    ∧ g = front.foldl (carryOut h) s ∧ s.Gathers g
    ∧ ((∃ lexer place, s.step h c = { g with lexer, place })
      ∨ g.halt = none ∧ g.Marked h (s.step h c) c)
  := by
  cases hlex : s.lexer.step c with
  | error kind =>
    use [], s, List.forall_mem_nil _, rfl, Gathers.refl running
    right
    use running
    rw [step_of_error h running hlex]
    exact Marked.refuse kind s.place rfl rfl rfl
  | ok read =>
    obtain ⟨lexer, tokens⟩ := read
    obtain ⟨front, last, rfl, components, mark⟩ := Lexer.completes_step hlex
    refine ⟨front, _, components, rfl, gathers_foldl_carryOut h front running components, ?_⟩
    obtain ⟨lexer', place, hgo⟩ := goOn_eq ((front ++ last.toList).foldl (carryOut h) s) lexer
      (s.place.advance c)
    rw [step_of_ok h running hlex, hgo, List.foldl_append]
    generalize front.foldl (carryOut h) s = g
    cases last with
    | none => exact .inl ⟨_, _, rfl⟩
    | some t =>
      by_cases hhalt : g.halt = none
      · right
        use hhalt
        apply marked_carryOut h hhalt (mark t rfl)
      · left
        rw [foldl_carryOut_of_halt h (Option.isSome_iff_ne_none.mpr hhalt)]
        exact ⟨_, _, rfl⟩

/-- What a character can do to a run that has not stopped: components are gathered, and then the
character may be a mark. -/
theorem step_cases (h : Host σ) {s : Scan σ} (running : s.halt = none) (c : Char) :
  s.Gathers (s.step h c) ∨ ∃ g, s.Gathers g ∧ g.halt = none ∧ g.Marked h (s.step h c) c
  := by
  obtain ⟨-, g, -, -, gathers, hstep⟩ := step_parts h running c
  rcases hstep with ⟨lexer, place, hstep⟩ | ⟨hhalt, marked⟩
  · left
    rw [hstep]
    exact ⟨gathers.state, gathers.blocks, gathers.events, gathers.halt⟩
  · right
    use g

/-- A character only gathers components unless it is read freely, or ends an instruction together
with the variable at its end. -/
theorem gathers_step_of_mode (h : Host σ) {s : Scan σ} (running : s.halt = none) {c : Char}
    (hmode : ¬ (s.lexer.mode = .free ∨ s.lexer.mode = .variable ∧ c = ';')) :
  s.Gathers (s.step h c)
  := by
  cases hlex : s.lexer.step c with
  | error kind => apply absurd (.inl (Lexer.error_cases hlex).1) hmode
  | ok read =>
    obtain ⟨lexer, tokens⟩ := read
    have components : ∀ t ∈ tokens, t.mark? = none := by
      intro t ht
      cases mark : t.mark? with
      | none => rfl
      | some d =>
        obtain rfl := (Lexer.completes_step hlex).mark_eq ht mark
        rcases Lexer.mode_of_mark hlex ht mark with hfree | ⟨hvariable, rfl⟩
        · apply absurd (.inl hfree) hmode
        · apply absurd (.inr ⟨hvariable, (Option.some.inj mark).symm⟩) hmode
    rw [step_of_ok h running hlex]
    apply (gathers_foldl_carryOut h tokens running components).goOn

/-- Gathering components adds to the events. -/
theorem Gathers.events_prefix {s s' : Scan σ} (g : s.Gathers s') :
  s.events <+: s'.events
  := by
  obtain ⟨new, hnew, -⟩ := g.events
  rw [hnew]
  apply List.prefix_append

/-- A mark adds to the events. -/
theorem Marked.events_prefix {h : Host σ} {s m : Scan σ} {c : Char} (marked : s.Marked h m c) :
  s.events <+: m.events
  := by
  cases marked with
  | refuse kind place machine events halt =>
    rewrite [events]
    apply List.prefix_refl
  | comment machine events halt =>
    rewrite [events]
    apply List.prefix_refl
  | stop machine events halt =>
    rw [events]
    apply List.prefix_append
  | enter hblocks machine events halt =>
    rw [events]
    apply List.prefix_append
  | leave hleave machine events halt =>
    rw [events]
    apply List.prefix_append

/-- A character adds to the events. -/
theorem events_prefix_step (h : Host σ) (s : Scan σ) (c : Char) :
  s.events <+: (s.step h c).events
  := by
  by_cases running : s.halt = none
  · rcases step_cases h running c with gathers | ⟨g, gathers, -, marked⟩
    · apply gathers.events_prefix
    · apply gathers.events_prefix.trans marked.events_prefix
  · rewrite [step_of_halt h (Option.isSome_iff_ne_none.mpr running)]
    apply List.prefix_refl

/-- A text adds to the events. -/
theorem events_prefix_feed (h : Host σ) (s : Scan σ) (text : List Char) :
  s.events <+: (s.feed h text).events
  := by
  apply feed_invariant h (P := fun t => s.events <+: t.events)
  · intro t c hprefix
    apply hprefix.trans (events_prefix_step h t c)
  · apply List.prefix_refl

end Scan

/-- A character at the end of the second of two texts is at the end of both. -/
theorem Text.append_push (first second : String) (c : Char) :
  first ++ second.push c = (first ++ second).push c
  := by
  rw [String.push_eq_append, ← String.append_assoc, ← String.push_eq_append]

/-- The scan of a longer text goes on from the scan of its beginning. -/
theorem Host.scan_append (h : Host σ) (s : σ) (first second : String) :
  h.scan s (first ++ second) = (h.scan s first).feed h second.toList
  := by
  rw [scan, String.toList_append, Scan.feed_append]
  rfl

/-- The scan of a text with one more character is one more step. -/
theorem Host.scan_push (h : Host σ) (s : σ) (text : String) (c : Char) :
  h.scan s (text.push c) = (h.scan s text).step h c
  := by
  rw [scan, String.toList_push, Scan.feed_concat]
  rfl

/-- A host that gives every variable the same value, or none, and every instruction the same
reply. -/
def Host.fixed (value? : Option Value) (reply : Reply) : Host Unit where
  reset := id
  lookup _ _ := value?
  execute s _ := (reply, s)

end GuardedScript
