import GuardedScript.Proofs.Lexical
import GuardedScript.Proofs.Nesting
import GuardedScript.Proofs.Reading

/-!
# No component gets lost

A component waits from the end of its token until the instruction that it belongs to ends. What
waits outlives the end of a block, and a guard ends in one way and any other instruction in
another; still every component goes into exactly one instruction, and the order stays. So the
components of the instructions that have ended, and then those that are waiting, are the components
that have been read.

An instruction that ends in an active block is executed once, and one that ends in an inactive
block never. A run that completes has nothing waiting, not even in a comment, where the end of the
text is not examined.
-/

universe u

namespace GuardedScript

variable {σ : Type u}

/-! ### Tokens and components -/

/-- The token is a component of an instruction. -/
def Token.isComponent (t : Token) : Bool :=
  t.mark?.isNone

/-- The token of the component that the event adds to the instruction under way. A variable without
a value adds none. -/
def Event.token? : Event → Option Token
  | word text => some (.word text)
  | literal text => some (.literal text)
  | lookup name (some _) => some (.reference name)
  | _ => none

namespace Scan

/-- The components that have been read, in the order in which their tokens ended. -/
def components (s : Scan σ) : List Value :=
  s.events.filterMap Event.component?

/-- The tokens of the components that have been read, in order. -/
def componentTokens (s : Scan σ) : List Token :=
  s.events.filterMap Event.token?

end Scan

namespace Machine

/-- The instruction that ends has the components that were waiting. -/
theorem components_dispatch (h : Host σ) (m : Machine σ) (guard : Bool) :
  (m.dispatch h guard).1.components = m.pending
  := by
  apply h.components_dispatch

/-- What was waiting before a token and what the token adds is what the token ends and what is
waiting after it. -/
theorem pending_step (h : Host σ) (place : Position) (m : Machine σ) (t : Token) :
  m.pending ++ (m.step h place t).events.filterMap Event.component?
    = ((m.step h place t).events.filterMap Event.ended?).flatten
      ++ (m.step h place t).machine.pending
  := by
  have hends (guard : Bool) :
      m.pending ++ [] = [(m.dispatch h guard).1.components].flatten ++ [] := by
    simp [components_dispatch]
  cases t with
  | word text => rfl
  | literal text => rfl
  | reference name =>
    rw [step]
    split
    · rfl
    · apply List.append_nil
  | stop => apply hends
  | enter =>
    rw [step]
    split
    · apply hends
    · apply List.append_nil
  | leave =>
    rw [step]
    split
    · apply List.append_nil
    · apply List.append_nil
  | comment =>
    rw [step]
    split
    · apply List.append_nil
    · apply List.append_nil

/-- Components in an active block are executed when their instruction ends. -/
theorem dispatch_of_active (h : Host σ) (m : Machine σ) (guard : Bool) (hpending : m.pending ≠ [])
    (active : m.blocks.current.active = true) :
  m.dispatch h guard = (.called m.pending guard (h.execute m.state m.pending).1,
    { m with pending := [], state := (h.execute m.state m.pending).2 })
  := by
  simp [dispatch, Host.dispatch, hpending, active]

/-- Nothing is executed without components or in an inactive block. -/
theorem dispatch_of_idle (h : Host σ) (m : Machine σ) (guard : Bool)
    (idle : ¬ (m.pending ≠ [] ∧ m.blocks.current.active = true)) :
  (Event.dispatched (m.dispatch h guard).1).interaction? = none
    ∧ (m.dispatch h guard).2.state = m.state
  := by
  by_cases hpending : m.pending = []
  · simp [dispatch, Host.dispatch, hpending, Event.interaction?]
  · have inactive : m.blocks.current.active = false := by simpa [hpending] using idle
    simp [dispatch, Host.dispatch, hpending, inactive, Event.interaction?]

/-- A token that stops the run adds no component, and any other one adds itself if it is one. -/
theorem tokens_step (h : Host σ) (place : Position) (m : Machine σ) (t : Token) :
  (m.step h place t).events.filterMap Event.token?
    = if (m.step h place t).halt.isNone then [t].filter Token.isComponent else []
  := by
  cases t with
  | word text => rfl
  | literal text => rfl
  | reference name =>
    rw [step]
    split
    · rfl
    · rfl
  | stop => simp [step, Event.token?, Token.isComponent, Token.mark?]
  | enter =>
    rw [step]
    split
    · simp [Event.token?, Token.isComponent, Token.mark?]
    · rfl
  | leave =>
    rw [step]
    split
    · rfl
    · rfl
  | comment =>
    rw [step]
    split
    · rfl
    · rfl

end Machine

namespace Scan

/-! ### Every component is in one instruction -/

/-- The components of the instructions that have ended, and then those that are waiting, are those
that have been read. -/
def Keeps (s : Scan σ) : Prop :=
  s.ended.flatten ++ s.machine.pending = s.components

theorem Keeps.carryOut (h : Host σ) {s : Scan σ} (keeps : s.Keeps) (t : Token) :
  (s.carryOut h t).Keeps
  := by
  by_cases running : s.halt = none
  · have hevents : (s.carryOut h t).events = s.events ++ (s.machine.step h s.place t).events := by
      simp [carryOut_of_running h running, events]
    have hmachine : (s.carryOut h t).machine = (s.machine.step h s.place t).machine := by
      rw [carryOut_of_running h running]
    rw [Keeps, ended, components] at keeps ⊢
    rw [hevents, hmachine, List.filterMap_append, List.filterMap_append, List.flatten_append,
      List.append_assoc, ← Machine.pending_step, ← List.append_assoc, keeps]
  · rw [carryOut_of_halt h (Option.isSome_iff_ne_none.mpr running)]
    apply keeps

theorem Keeps.foldl_carryOut (h : Host σ) (tokens : List Token) {s : Scan σ} (keeps : s.Keeps) :
  (tokens.foldl (Scan.carryOut h) s).Keeps
  := by
  induction tokens generalizing s with
  | nil => apply keeps
  | cons t rest ih => apply ih (keeps.carryOut h t)

theorem keeps_step (h : Host σ) (s : Scan σ) (c : Char) (keeps : s.Keeps) :
  (s.step h c).Keeps
  := by
  by_cases running : s.halt = none
  · cases hlex : s.lexer.step c with
    | error kind =>
      rw [step_of_error h running hlex]
      apply keeps
    | ok read =>
      rw [step_of_ok h running hlex, Keeps, ended, components, events_goOn, machine_goOn]
      apply keeps.foldl_carryOut h read.2
  · rw [step_of_halt h (Option.isSome_iff_ne_none.mpr running)]
    apply keeps

/-! ### Components and the text -/

/-- The tokens that a character completes add those components that come before the run stops, and
all of them if it goes on. -/
theorem componentTokens_foldl_carryOut (h : Host σ) (tokens : List Token) {s : Scan σ}
    (running : s.halt = none) :
  ∃ front, front <+: tokens.filter Token.isComponent
    ∧ (tokens.foldl (carryOut h) s).componentTokens = s.componentTokens ++ front
    ∧ ((tokens.foldl (carryOut h) s).halt = none → front = tokens.filter Token.isComponent)
  := by
  induction tokens generalizing s with
  | nil => exact ⟨[], List.prefix_rfl, (List.append_nil _).symm, fun _ => rfl⟩
  | cons t rest ih =>
    have hcarry := carryOut_of_running h running t
    have htokens : (s.carryOut h t).componentTokens = s.componentTokens
        ++ if (s.carryOut h t).halt.isNone then [t].filter Token.isComponent else [] := by
      simp [componentTokens, events, hcarry, Machine.tokens_step]
    have hsplit : (t :: rest).filter Token.isComponent
        = [t].filter Token.isComponent ++ rest.filter Token.isComponent :=
      List.filter_append [t] rest
    rw [List.foldl_cons, hsplit]
    by_cases hhalt : (s.carryOut h t).halt = none
    · obtain ⟨front, hfront, hrest, hall⟩ := ih hhalt
      rw [hhalt, Option.isNone_none, if_pos rfl] at htokens
      use [t].filter Token.isComponent ++ front
      refine ⟨(List.prefix_append_right_inj _).mpr hfront, ?_, ?_⟩
      · rw [hrest, htokens, List.append_assoc]
      · intro hgoes
        rw [hall hgoes]
    · rw [foldl_carryOut_of_halt h (Option.isSome_iff_ne_none.mpr hhalt)]
      rw [if_neg (mt Option.isNone_iff_eq_none.mp hhalt)] at htokens
      exact ⟨[], List.nil_prefix, htokens, fun hgoes => absurd hgoes hhalt⟩

/-- The run has read some part of the text, from its beginning, and has added the components among
the tokens of that part; if it goes on, then it has read the whole text and added all of them. -/
def Collects (s : Scan σ) (text : List Char) : Prop :=
  ∃ part tokens next, part <+: text ∧ Lexer.start.Reads part tokens next
    ∧ s.componentTokens <+: tokens.filter Token.isComponent
    ∧ (s.halt = none →
      part = text ∧ next = s.lexer ∧ s.componentTokens = tokens.filter Token.isComponent)

theorem Collects.step (h : Host σ) {s : Scan σ} {text : List Char} (collects : s.Collects text)
    (c : Char) :
  (s.step h c).Collects (text ++ [c])
  := by
  obtain ⟨part, tokens, next, hpart, reads, hprefix, hall⟩ := collects
  have hlonger : part <+: text ++ [c] := hpart.trans (List.prefix_append text [c])
  by_cases running : s.halt = none
  · obtain ⟨rfl, rfl, hsame⟩ := hall running
    cases hlex : s.lexer.step c with
    | error kind =>
      rw [step_of_error h running hlex]
      refine ⟨part, tokens, s.lexer, hlonger, reads, hprefix, ?_⟩
      rintro ⟨⟩
    | ok read =>
      obtain ⟨lexer, more⟩ := read
      obtain ⟨front, hfront, hadds, hfull⟩ :=
        componentTokens_foldl_carryOut h more running
      have htokens : (s.step h c).componentTokens = s.componentTokens ++ front := by
        rw [step_of_ok h running hlex, componentTokens, events_goOn]
        apply hadds
      rw [hsame] at htokens
      refine ⟨part ++ [c], tokens ++ more, lexer, List.prefix_rfl,
        reads.append (.single hlex), ?_, ?_⟩
      · rw [htokens, List.filter_append]
        apply (List.prefix_append_right_inj _).mpr hfront
      · intro hgoes
        have hlexer : (s.step h c).lexer = lexer := by rw [step_of_goesOn h running hlex hgoes]
        rw [step_of_ok h running hlex, halt_goOn] at hgoes
        use rfl, hlexer.symm
        rw [htokens, List.filter_append, hfull hgoes]
  · rw [step_of_halt h (Option.isSome_iff_ne_none.mpr running)]
    exact ⟨part, tokens, next, hlonger, reads, hprefix, fun hgoes => absurd hgoes running⟩

/-! ### Every instruction is executed at most once -/

/-- From `s` to `s'` no instruction has ended, and the host has executed nothing. -/
def Waits (s s' : Scan σ) : Prop :=
  s'.ended = s.ended ∧ s.Idles s'

/-- From `s` to `s'` an instruction with the given components has ended, as a guard or not. If it
has components and the current block is active, then the host has executed it once; otherwise the
host has executed nothing. -/
def Ends (h : Host σ) (s s' : Scan σ) (components : List Value) (guard : Bool) : Prop :=
  s'.ended = s.ended ++ [components]
    ∧ if components ≠ [] ∧ s.machine.blocks.current.active = true then
        ∃ reply, s'.calls = s.calls ++ [.call components guard reply]
          ∧ h.execute s.state components = (reply, s'.state)
      else s.Idles s'

/-- Events that end no instruction and pass nothing to the host leave both waiting. -/
theorem waits_of_events {s s' : Scan σ} {new : List Event} (hstate : s'.state = s.state)
    (hevents : s'.events = s.events ++ new) (hended : new.filterMap Event.ended? = [])
    (hquiet : new.filterMap Event.interaction? = []) :
  s.Waits s'
  := by
  constructor
  · rw [ended, hevents, List.filterMap_append, hended, List.append_nil]
    rfl
  · apply idles_of_events hstate hevents hquiet

/-- The instruction under way ends where it is dispatched. -/
theorem ends_of_dispatched {h : Host σ} {s s' : Scan σ} {guard : Bool} {trailing : List Event}
    (hstate : s'.state = (s.machine.dispatch h guard).2.state)
    (hevents : s'.events = s.events ++ .dispatched (s.machine.dispatch h guard).1 :: trailing)
    (hended : trailing.filterMap Event.ended? = [])
    (hquiet : trailing.filterMap Event.interaction? = []) :
  Ends h s s' s.machine.pending guard
  := by
  constructor
  · simp [ended, hevents, Event.ended?, Machine.components_dispatch, hended]
  · split
    · rename_i hcalled
      rw [s.machine.dispatch_of_active h guard hcalled.1 hcalled.2] at hstate hevents
      refine ⟨_, ?_, Prod.ext rfl hstate.symm⟩
      rw [calls, interactions_of_events hevents, List.filterMap_cons, hquiet, List.filter_append]
      rfl
    · rename_i hidle
      obtain ⟨hnone, hsame⟩ := s.machine.dispatch_of_idle h guard hidle
      apply idles_of_events (hstate.trans hsame) hevents
      simp [hnone, hquiet]

/-- At a mark nothing ends and the host idles; or the mark ends the instruction under way, as a
guard or not. -/
theorem Marked.ends {h : Host σ} {s m : Scan σ} {c : Char} (marked : s.Marked h m c) :
  s.Waits m ∨ ∃ guard, c = (if guard then '\x7b' else ';')
    ∧ Ends h s m s.machine.pending guard
  := by
  cases marked with
  | refuse kind place machine events halt =>
    left
    apply waits_of_events (congrArg Machine.state machine)
      (events.trans (List.append_nil _).symm) rfl rfl
  | comment machine events halt =>
    left
    apply waits_of_events (congrArg Machine.state machine)
      (events.trans (List.append_nil _).symm) rfl rfl
  | stop machine events halt =>
    right
    use false, rfl
    apply ends_of_dispatched (congrArg Machine.state machine) events rfl rfl
  | enter hblocks machine events halt =>
    right
    use true, rfl
    have hstate := congrArg Machine.state machine
    apply ends_of_dispatched hstate events rfl rfl
  | leave hleave machine events halt =>
    left
    have hstate := congrArg Machine.state machine
    apply waits_of_events hstate events rfl rfl

/-- At a character nothing ends and the host idles; or the character ends an instruction, as a
guard or not. -/
theorem ends_step (h : Host σ) (s : Scan σ) (c : Char) :
  s.Waits (s.step h c) ∨ ∃ guard components, c = (if guard then '\x7b' else ';')
    ∧ Ends h s (s.step h c) components guard
  := by
  by_cases running : s.halt = none
  · rcases step_cases h running c with gathers | ⟨g, gathers, -, marked⟩
    · exact .inl ⟨gathers.ended, gathers.calls, gathers.state⟩
    · simp only [Waits, Ends, Idles, ← gathers.ended, ← gathers.calls, ← gathers.state,
        ← gathers.blocks]
      rcases marked.ends with waits | ⟨guard, hc, ends⟩
      · apply Or.inl waits
      · exact .inr ⟨guard, g.machine.pending, hc, ends⟩
  · rw [step_of_halt h (Option.isSome_iff_ne_none.mpr running)]
    exact .inl ⟨rfl, rfl, rfl⟩

/-! ### Runs that complete -/

/-- Nothing is waiting when a run completes, neither components nor characters other than blanks. -/
theorem Fits.of_completed {s : Scan σ} (fits : s.Fits) (completed : s.result = .ok .completed) :
  s.machine.pending = [] ∧ ∀ c ∈ s.lexer.buffer.toList, Text.isBlank c = true
  := by
  have running : s.halt = none := by
    rw [result] at completed
    split at completed
    · cases completed
    · cases completed
    · assumption
  rcases (result_eq_completed_iff running).mp completed with hcomment | ⟨-, hpending, hblank⟩
  · -- The end of the text is not examined here, but what waits fits a comment.
    have hlexer := fits.lexer
    rw [Lexer.Fits.eq_def, hcomment] at hlexer
    exact ⟨fits.comment hcomment, hlexer⟩
  · exact ⟨hpending, hblank⟩

end Scan

/-! ### Nothing lost, nothing twice -/

namespace Host

theorem keeps_scan (h : Host σ) (s : σ) (text : String) :
  (h.scan s text).Keeps
  := by
  apply Scan.feed_invariant h (Scan.keeps_step h)
  rfl

theorem collects_scan (h : Host σ) (s : σ) (text : String) :
  (h.scan s text).Collects text.toList
  := by
  induction text using String.push_induction with
  | empty =>
    exact ⟨[], [], .start, List.prefix_rfl, .nil _, List.prefix_rfl, fun _ => ⟨rfl, rfl, rfl⟩⟩
  | push text c ih =>
    rw [scan_push, String.toList_push]
    apply ih.step h c

/-- No component is lost, doubled or moved. At every point of a run the components of the
instructions that have ended, and then those that are waiting, are the components that have been
read; and these come from the tokens of the text, in order. At every character no instruction ends
and the host executes nothing; or one instruction ends, and the host executes it once if it has
components and the current block is active, and otherwise never. When a run completes, no
components are waiting and nothing but blanks is in the buffer, so that the components of the
instructions that have ended are all that have been read. -/
theorem scan_keeps_components (h : Host σ) (s : σ) :
  (∀ text, (h.scan s text).ended.flatten ++ (h.scan s text).machine.pending
        = (h.scan s text).components
      ∧ (h.scan s text).Collects text.toList)
    ∧ (∀ p c, (h.scan s p).Waits (h.scan s (p.push c))
      ∨ ∃ guard components, c = (if guard then '\x7b' else ';')
        ∧ Scan.Ends h (h.scan s p) (h.scan s (p.push c)) components guard)
    ∧ ∀ text, (h.scan s text).result = .ok .completed →
      (h.scan s text).machine.pending = []
        ∧ (∀ c ∈ (h.scan s text).lexer.buffer.toList, Text.isBlank c = true)
        ∧ (h.scan s text).ended.flatten = (h.scan s text).components
  := by
  refine ⟨?_, ?_, ?_⟩
  · intro text
    exact ⟨keeps_scan h s text, collects_scan h s text⟩
  · intro p c
    rw [scan_push]
    apply Scan.ends_step
  · intro text completed
    obtain ⟨hpending, hblank⟩ := (fits_scan h s text).of_completed completed
    have keeps := keeps_scan h s text
    rw [Scan.Keeps, hpending, List.append_nil] at keeps
    exact ⟨hpending, hblank, keeps⟩

/-- The components in front of the end of the block outlive it, and belong to the instruction behind
it together with the one that follows. The text ends inside a comment. -/
theorem scan_keeps_components_close :
  let h := Host.fixed (some .null) { result := .bool true }
  let text := "a $x \x7b b 'c' \x7d d; # e"
  (h.scan () text).result = .ok .completed
    ∧ (h.scan () text).ended.map List.length = [2, 3]
    ∧ (h.scan () text).machine.pending = []
    ∧ (h.scan () text).ended.flatten = (h.scan () text).components
  := by
  intro h text
  have running : (h.scan () text).halt = none := by decide +kernel
  have hcomment : (h.scan () text).lexer.mode = .comment := by decide +kernel
  have completed := (Scan.result_eq_completed_iff running).mpr (.inl hcomment)
  have hlengths : (h.scan () text).ended.map List.length = [2, 3] := by decide +kernel
  obtain ⟨hpending, -, hall⟩ := (scan_keeps_components h ()).2.2 text completed
  exact ⟨completed, hlengths, hpending, hall⟩

end Host

end GuardedScript
