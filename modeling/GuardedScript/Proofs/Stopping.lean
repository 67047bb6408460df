import GuardedScript.Proofs.Activation
import GuardedScript.Proofs.Streaming

/-!
# Instructions that stop a script

In its reply to an instruction the host may ask for the script to stop. At the end of an
instruction that stands for itself the run is aborted, and nothing follows. At the beginning of a
block the run goes on, and the block is inactive even when the result of its guard counts as true.
So a run is aborted exactly when the host asked for a stop at an instruction that guards no block.
-/

universe u

namespace GuardedScript

variable {σ : Type u}

/-! ### Interactions that stop a run -/

/-- The host asked for a stop in its reply to an instruction that guards no block. -/
def Interaction.stops : Interaction → Bool
  | lookup _ _ => false
  | call _ guard reply => !guard && reply.abort

/-- What is no call stops nothing. -/
theorem Interaction.stops_of_isCall {i : Interaction} (h : i.isCall = false) :
  i.stops = false
  := by
  cases i with
  | lookup name value? => rfl
  | call components guard reply => cases h

/-- What passes between run and host when an instruction ends stops the run exactly when the
instruction does. -/
theorem Dispatch.stops_of_interaction? {d : Dispatch} {i : Interaction}
    (h : (Event.dispatched d).interaction? = some i) :
  i.stops = d.aborts
  := by
  cases d with
  | blank => cases h
  | skipped components => cases h
  | called components guard reply =>
    cases h
    rfl

/-- A guard does not stop the script. -/
theorem Machine.aborts_dispatch_guard (h : Host σ) (m : Machine σ) :
  (m.dispatch h true).1.aborts = false
  := by
  rcases m.dispatch_cases h true with ⟨-, hd, -⟩ | ⟨hd, -, -⟩
  · rw [hd]
    rfl
  · cases hdispatch : (m.dispatch h true).1 with
    | blank => rfl
    | skipped components => rfl
    | called components guard reply =>
      rw [hdispatch] at hd
      cases hd

namespace Scan

/-- No interaction before the last one stops a run, and if the run was not aborted, then none
does. -/
structure AbortsOnce (s : Scan σ) : Prop where
  earlier : ∀ i ∈ s.interactions.dropLast, i.stops = false
  otherwise : s.halt ≠ some .aborted → ∀ i ∈ s.interactions, i.stops = false

namespace AbortsOnce

/-- Where no interaction stops the run, it is aborted at most once. -/
theorem of_forall {s : Scan σ} (h : ∀ i ∈ s.interactions, i.stops = false) :
  s.AbortsOnce
  where
  earlier i hi := h i (List.dropLast_subset _ hi)
  otherwise _ := h

/-- After interactions that do not stop the run there may be one more, if the run is aborted when
that one stops it. -/
theorem of_append {s s' : Scan σ} (h : ∀ i ∈ s.interactions, i.stops = false)
    {last : Option Interaction} (hlast : s'.interactions = s.interactions ++ last.toList)
    (haborted : ∀ i ∈ last, i.stops = true → s'.halt = some .aborted) :
  s'.AbortsOnce
  := by
  cases last with
  | none =>
    rw [Option.toList_none, List.append_nil] at hlast
    apply of_forall
    rewrite [hlast]
    apply h
  | some i =>
    constructor
    · rw [hlast, Option.toList_some, List.dropLast_concat]
      apply h
    · intro hhalt j hj
      rw [hlast] at hj
      rcases List.mem_append.mp hj with hj | hj
      · apply h j hj
      · obtain rfl := List.mem_singleton.mp hj
        cases hstops : j.stops with
        | false => rfl
        | true => apply absurd (haborted j rfl hstops) hhalt

end AbortsOnce

theorem Gathers.stops {s s' : Scan σ} (gathers : s.Gathers s')
    (hs : ∀ i ∈ s.interactions, i.stops = false) :
  ∀ i ∈ s'.interactions, i.stops = false
  := by
  obtain ⟨new, hnew, hcall⟩ := gathers.interactions
  intro i hi
  rw [hnew] at hi
  rcases List.mem_append.mp hi with hi | hi
  · apply hs i hi
  · apply Interaction.stops_of_isCall (hcall i hi)

/-- Events that the host has no part in pass nothing between it and the run. -/
theorem interactions_of_quiet {s s' : Scan σ} {new : List Event}
    (hevents : s'.events = s.events ++ new) (hnew : new.filterMap Event.interaction? = []) :
  s'.interactions = s.interactions
  := by
  rw [interactions_of_events hevents, hnew, List.append_nil]

/-- What passes between run and host when an instruction ends. -/
theorem interactions_of_dispatched {s s' : Scan σ} {d : Dispatch} {trailing : List Event}
    (hevents : s'.events = s.events ++ .dispatched d :: trailing)
    (htrailing : trailing.filterMap Event.interaction? = []) :
  s'.interactions = s.interactions ++ (Event.dispatched d).interaction?.toList
  := by
  rw [interactions_of_events hevents, List.filterMap_cons, htrailing]
  cases (Event.dispatched d).interaction? with
  | none => rfl
  | some i => rfl

/-- At a mark nothing passes between run and host; or an instruction ends there, and the run is
aborted if the instruction says so; or a guard ends there, and its block begins. -/
theorem Marked.interactions_cases {h : Host σ} {s m : Scan σ} {c : Char}
    (marked : s.Marked h m c) :
  m.interactions = s.interactions
    ∨ (c = ';' ∧ m.interactions = s.interactions
        ++ (Event.dispatched (s.machine.dispatch h false).1).interaction?.toList
      ∧ m.halt = if (s.machine.dispatch h false).1.aborts then some .aborted else none)
    ∨ c = '\x7b' ∧ m.interactions = s.interactions
        ++ (Event.dispatched (s.machine.dispatch h true).1).interaction?.toList
      ∧ m.halt = none
      ∧ m.machine.blocks = s.machine.blocks.enter (s.machine.dispatch h true).1.truthy
  := by
  cases marked with
  | refuse kind place machine events halt =>
    apply Or.inl (interactions_of_quiet (events.trans (List.append_nil _).symm) rfl)
  | comment machine events halt =>
    apply Or.inl (interactions_of_quiet (events.trans (List.append_nil _).symm) rfl)
  | stop machine events halt =>
    exact .inr (.inl ⟨rfl, interactions_of_dispatched events rfl, halt⟩)
  | enter hblocks machine events halt =>
    have hmachine := congrArg Machine.blocks machine
    exact .inr (.inr ⟨rfl, interactions_of_dispatched events rfl, halt, hmachine.trans hblocks⟩)
  | leave hleave machine events halt => apply Or.inl (interactions_of_quiet events rfl)

/-- A run that has not been asked to stop is aborted at a mark at most once. -/
theorem Marked.abortsOnce {h : Host σ} {s m : Scan σ} {c : Char} (marked : s.Marked h m c)
    (hs : ∀ i ∈ s.interactions, i.stops = false) :
  m.AbortsOnce
  := by
  rcases marked.interactions_cases with hsame | ⟨-, hstop, hhalt⟩ | ⟨-, henter, -, -⟩
  · apply AbortsOnce.of_forall
    rewrite [hsame]
    apply hs
  · apply AbortsOnce.of_append hs hstop
    intro i hi hstops
    rw [Dispatch.stops_of_interaction? hi] at hstops
    rw [hhalt, if_pos hstops]
  · apply AbortsOnce.of_append hs henter
    intro i hi hstops
    rw [Dispatch.stops_of_interaction? hi, s.machine.aborts_dispatch_guard] at hstops
    cases hstops

theorem abortsOnce_step (h : Host σ) (s : Scan σ) (c : Char) (hs : s.AbortsOnce) :
  (s.step h c).AbortsOnce
  := by
  by_cases running : s.halt = none
  · have hnone : ∀ i ∈ s.interactions, i.stops = false := by
      apply hs.otherwise
      rw [running]
      rintro ⟨⟩
    rcases step_cases h running c with gathers | ⟨g, gathers, -, marked⟩
    · apply AbortsOnce.of_forall (gathers.stops hnone)
    · apply marked.abortsOnce (gathers.stops hnone)
  · rw [step_of_halt h (Option.isSome_iff_ne_none.mpr running)]
    apply hs

end Scan

theorem Host.abortsOnce_scan (h : Host σ) (s : σ) (text : String) :
  (h.scan s text).AbortsOnce
  := by
  apply Scan.feed_invariant h (Scan.abortsOnce_step h)
  apply Scan.AbortsOnce.of_forall
  intro i hi
  cases hi

/-! ### Replies -/

namespace Scan

/-- What interactions add to the instructions that the host has executed. -/
theorem calls_of_interactions {s s' : Scan σ} {new : List Interaction}
    (hnew : s'.interactions = s.interactions ++ new) :
  s'.calls = s.calls ++ new.filter Interaction.isCall
  := by
  rw [calls, hnew, List.filter_append]
  rfl

/-- At a mark the host executes nothing; or it executes the instruction that ends there, and the
run is aborted if the host asks for a stop; or it executes the guard of the block that begins
there, and the run goes on, in an inactive block if the host asks for a stop. -/
theorem Marked.reply_cases {h : Host σ} {s m : Scan σ} {c : Char} (marked : s.Marked h m c) :
  m.calls = s.calls
    ∨ (∃ components reply, m.calls = s.calls ++ [.call components false reply] ∧ c = ';'
      ∧ m.halt = if reply.abort then some .aborted else none)
    ∨ ∃ components reply active, m.calls = s.calls ++ [.call components true reply]
      ∧ c = '\x7b' ∧ m.halt = none ∧ m.machine.blocks = s.machine.blocks.enter active
      ∧ (reply.abort = true → active = false)
  := by
  rcases marked.interactions_cases with hsame | ⟨hc, hstop, hhalt⟩ | ⟨hc, henter, hhalt, hblocks⟩
  · left
    simp only [Scan.calls, hsame]
  · have hcalls := calls_of_interactions hstop
    rcases s.machine.dispatch_cases h false with ⟨-, hd, -⟩ | ⟨hnone, -, -⟩
    · right
      left
      rw [hd] at hcalls hhalt
      exact ⟨_, _, hcalls, hc, hhalt⟩
    · left
      rw [hnone] at hcalls
      simpa using hcalls
  · have hcalls := calls_of_interactions henter
    rcases s.machine.dispatch_cases h true with ⟨-, hd, -⟩ | ⟨hnone, -, -⟩
    · right
      right
      rw [hd] at hcalls hblocks
      refine ⟨_, _, _, hcalls, hc, hhalt, hblocks, ?_⟩
      intro habort
      simp [Dispatch.truthy, habort]
    · left
      rw [hnone] at hcalls
      simpa using hcalls

/-- At a character the host executes nothing; or the character ends an instruction, alone or
together with a variable, and the run is aborted if the host asks for a stop; or a block begins
there, and the run goes on, in an inactive block if the host asks for a stop. -/
theorem reply_cases_step (h : Host σ) (s : Scan σ) (c : Char) :
  (s.step h c).calls = s.calls
    ∨ (∃ components reply, (s.step h c).calls = s.calls ++ [.call components false reply]
      ∧ c = ';' ∧ (s.lexer.mode = .free ∨ s.lexer.mode = .variable)
      ∧ (s.step h c).halt = if reply.abort then some .aborted else none)
    ∨ ∃ components reply active, (s.step h c).calls = s.calls ++ [.call components true reply]
      ∧ c = '\x7b' ∧ s.lexer.mode = .free ∧ (s.step h c).halt = none
      ∧ (s.step h c).machine.blocks = s.machine.blocks.enter active
      ∧ (reply.abort = true → active = false)
  := by
  by_cases running : s.halt = none
  · -- The mode is asked first: the lemma on marks does not tell in which mode a mark was read.
    by_cases hmode : s.lexer.mode = .free ∨ s.lexer.mode = .variable ∧ c = ';'
    · rcases step_cases h running c with gathers | ⟨g, gathers, -, marked⟩
      · apply Or.inl gathers.calls
      · rw [← gathers.calls, ← gathers.blocks]
        rcases marked.reply_cases with hcalls | ⟨components, reply, hcalls, rfl, hhalt⟩
          | ⟨components, reply, active, hcalls, rfl, hhalt, hblocks, hactive⟩
        · apply Or.inl hcalls
        · right
          left
          exact ⟨components, reply, hcalls, rfl, hmode.imp_right And.left, hhalt⟩
        · right
          right
          have hfree : s.lexer.mode = .free := by
            rcases hmode with hfree | ⟨-, hc⟩
            · apply hfree
            · apply absurd hc (by decide)
          exact ⟨components, reply, active, hcalls, rfl, hfree, hhalt, hblocks, hactive⟩
    · apply Or.inl (gathers_step_of_mode h running hmode).calls
  · rw [step_of_halt h (Option.isSome_iff_ne_none.mpr running)]
    apply Or.inl rfl

end Scan

/-! ### Aborted runs -/

/-- A run is aborted exactly when the host asked for a stop in its reply to an instruction that
guards no block; there is one such instruction then, and it is the last interaction. At every
character the host executes at most one instruction. One that guards no block ends there, with or
without a variable at its end, and the run is aborted there exactly when the host asks for a stop.
After a guard the run goes on, and the block behind it is inactive if the host asks for a stop,
whatever the result. -/
theorem Host.scan_aborted_iff (h : Host σ) (s : σ) :
  (∀ text,
    ((h.scan s text).result = .ok .aborted ↔ ∃ components reply,
      .call components false reply ∈ (h.scan s text).interactions ∧ reply.abort = true)
    ∧ ((h.scan s text).result = .ok .aborted → ∃ before components reply,
      (h.scan s text).interactions = before ++ [.call components false reply]
        ∧ reply.abort = true
        ∧ ∀ components' reply', .call components' false reply' ∈ before → reply'.abort = false))
    ∧ ∀ p c,
      (h.scan s (p.push c)).calls = (h.scan s p).calls
      ∨ (∃ components reply,
        (h.scan s (p.push c)).calls = (h.scan s p).calls ++ [.call components false reply]
        ∧ c = ';' ∧ ((h.scan s p).lexer.mode = .free ∨ (h.scan s p).lexer.mode = .variable)
        ∧ (h.scan s (p.push c)).halt = if reply.abort then some .aborted else none)
      ∨ ∃ components reply active,
        (h.scan s (p.push c)).calls = (h.scan s p).calls ++ [.call components true reply]
        ∧ c = '\x7b' ∧ (h.scan s p).lexer.mode = .free
        ∧ (h.scan s (p.push c)).halt = none
        ∧ (h.scan s (p.push c)).machine.blocks = (h.scan s p).machine.blocks.enter active
        ∧ (reply.abort = true → active = false)
  := by
  constructor
  · intro text
    obtain ⟨hearlier, hotherwise⟩ := abortsOnce_scan h s text
    have hlast (aborted : (h.scan s text).result = .ok .aborted) :=
      abortsLast_scan h s text (Scan.halt_of_result_aborted aborted)
    constructor
    · constructor
      · intro aborted
        obtain ⟨before, components, reply, hinteractions, habort⟩ := hlast aborted
        use components, reply
        rw [hinteractions]
        exact ⟨List.mem_concat_self, habort⟩
      · rintro ⟨components, reply, hcall, habort⟩
        have hhalt : (h.scan s text).halt = some .aborted := by
          by_cases hhalt : (h.scan s text).halt = some .aborted
          · apply hhalt
          · have hstops := hotherwise hhalt _ hcall
            simp [Interaction.stops, habort] at hstops
        rw [Scan.result, hhalt]
    · intro aborted
      obtain ⟨before, components, reply, hinteractions, habort⟩ := hlast aborted
      use before, components, reply, hinteractions, habort
      intro components' reply' hcall
      rw [hinteractions, List.dropLast_concat] at hearlier
      simpa [Interaction.stops] using hearlier _ hcall
  · intro p c
    rw [scan_push]
    apply Scan.reply_cases_step

/-- The host asks for a stop in every reply, and every result counts as true. The guard does not
stop the run, the block behind it is passed over, and the instruction after the block is the last
one that the host executes. -/
theorem Host.scan_aborted_iff_guard :
  let h := Host.fixed none { result := .bool true, abort := true }
  let text := "a \x7b b; \x7d c; d;"
  ((h.scan () "a \x7b").halt = none ∧ (h.scan () "a \x7b").machine.blocks.current.active = false)
    ∧ (h.scan () text).result = .ok .aborted
    ∧ (h.scan () text).interactions.map Interaction.stops = [false, true]
    ∧ ∃ before components reply,
      (h.scan () text).interactions = before ++ [.call components false reply]
        ∧ reply.abort = true
        ∧ ∀ components' reply', .call components' false reply' ∈ before → reply'.abort = false
  := by
  intro h text
  have running : (h.scan () "a \x7b").halt = none := by decide +kernel
  have inactive : (h.scan () "a \x7b").machine.blocks.current.active = false := by decide +kernel
  have hhalt : (h.scan () text).halt = some .aborted := by decide +kernel
  have aborted : (h.scan () text).result = .ok .aborted := by rw [Scan.result, hhalt]
  have hstops : (h.scan () text).interactions.map Interaction.stops = [false, true] := by
    decide +kernel
  exact ⟨⟨running, inactive⟩, aborted, hstops, ((scan_aborted_iff h ()).1 text).2 aborted⟩

end GuardedScript
