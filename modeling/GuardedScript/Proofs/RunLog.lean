import GuardedScript.Proofs.Components
import GuardedScript.Proofs.LogLines
import GuardedScript.Proofs.Stopping

/-!
# The log of a run

A run of a script on a host that logs nothing itself can be told from its log. A line about an
instruction that the host executes stands directly before the line with its result, and there are
such lines for no other instructions. The lines about blocks tell at every point which blocks are
open. The warning that the script was stopped is there when it was, at the end.
-/

universe u

namespace GuardedScript

variable {σ : Type u}

/-! ### Hosts that log nothing -/

/-- The host logs nothing itself. -/
def Host.Quiet (h : Host σ) : Prop :=
  ∀ s components, (h.execute s components).1.notes = []

theorem Host.Quiet.notes_dispatch {h : Host σ} (quiet : h.Quiet) (m : Machine σ) (guard : Bool) :
  (m.dispatch h guard).1.notes = []
  := by
  rcases m.dispatch_cases h guard with ⟨-, hd, -⟩ | ⟨hd, -, -⟩
  · rw [hd]
    apply quiet
  · cases hdispatch : (m.dispatch h guard).1 with
    | blank => rfl
    | skipped components => rfl
    | called components guard reply =>
      rw [hdispatch] at hd
      cases hd

namespace Scan

/-! ### What a character logs -/

/-- What events add to the log. -/
theorem log_of_events {s s' : Scan σ} {new : List Event} (hnew : s'.events = s.events ++ new) :
  s'.log = s.log ++ new.flatMap Event.log
  := by
  rw [log, hnew, List.flatMap_append]
  rfl

/-- What events add to the instructions that have ended. -/
theorem ended_of_events {s s' : Scan σ} {new : List Event} (hnew : s'.events = s.events ++ new) :
  s'.ended = s.ended ++ new.filterMap Event.ended?
  := by
  rw [ended, hnew, List.filterMap_append]
  rfl

/-- Components are not logged. -/
theorem log_carryOut_of_component (h : Host σ) (s : Scan σ) {t : Token}
    (component : t.mark? = none) :
  (s.carryOut h t).log = s.log
  := by
  by_cases running : s.halt = none
  · cases t with
    | word text => simp [carryOut_word h running, log, events, Event.log]
    | literal text => simp [carryOut_literal h running, log, events, Event.log]
    | reference name =>
      cases hlookup : h.lookup s.state name with
      | some v => simp [carryOut_reference h running hlookup, log, events, Event.log]
      | none => simp [carryOut_reference_of_none h running hlookup, log, events, Event.log]
    | stop => cases component
    | enter => cases component
    | leave => cases component
    | comment => cases component
  · rw [carryOut_of_halt h (Option.isSome_iff_ne_none.mpr running)]

theorem log_foldl_carryOut (h : Host σ) {front : List Token}
    (components : ∀ t ∈ front, t.mark? = none) (s : Scan σ) :
  (front.foldl (carryOut h) s).log = s.log
  := by
  induction front generalizing s with
  | nil => rfl
  | cons t rest ih =>
    obtain ⟨component, components⟩ := List.forall_mem_cons.mp components
    rw [List.foldl_cons, ih components, log_carryOut_of_component h s component]

/-- A character that is no mark gathers components and logs nothing. -/
theorem log_cases_step (h : Host σ) {s : Scan σ} (running : s.halt = none) (c : Char) :
  (s.Gathers (s.step h c) ∧ (s.step h c).log = s.log)
    ∨ ∃ g, s.Gathers g ∧ g.log = s.log ∧ g.Marked h (s.step h c) c
  := by
  obtain ⟨front, g, components, hg, gathers, hstep⟩ := step_parts h running c
  have hlog : g.log = s.log := by rw [hg, log_foldl_carryOut h components]
  rcases hstep with ⟨lexer, place, hstep⟩ | ⟨-, marked⟩
  · left
    rw [hstep]
    exact ⟨⟨gathers.state, gathers.blocks, gathers.events, gathers.halt⟩, hlog⟩
  · right
    use g

/-! ### The host's part -/

/-- The host has logged nothing. -/
def Quiet (s : Scan σ) : Prop :=
  ∀ e ∈ s.events, e.notes = []

theorem Quiet.append {s s' : Scan σ} (quiet : s.Quiet) {new : List Event}
    (hevents : s'.events = s.events ++ new) (hnew : ∀ e ∈ new, e.notes = []) :
  s'.Quiet
  := by
  intro e he
  rw [hevents] at he
  rcases List.mem_append.mp he with he | he
  · apply quiet e he
  · apply hnew e he

theorem Gathers.quiet {s s' : Scan σ} (gathers : s.Gathers s') (quiet : s.Quiet) :
  s'.Quiet
  := by
  obtain ⟨new, hnew, hended⟩ := gathers.events
  apply quiet.append hnew
  intro e he
  cases e with
  | dispatched d => cases hended _ he
  | word text => rfl
  | literal text => rfl
  | lookup name value? => rfl
  | entered block depth => rfl
  | left closed current => rfl

theorem Marked.quiet {h : Host σ} (hquiet : h.Quiet) {s m : Scan σ} {c : Char}
    (marked : s.Marked h m c) (quiet : s.Quiet) :
  m.Quiet
  := by
  cases marked with
  | refuse kind place machine events halt =>
    rw [Quiet, events]
    apply quiet
  | comment machine events halt =>
    rw [Quiet, events]
    apply quiet
  | stop machine events halt =>
    apply quiet.append events
    simp [Event.notes, hquiet.notes_dispatch]
  | enter hblocks machine events halt =>
    apply quiet.append events
    simp [Event.notes, hquiet.notes_dispatch]
  | leave hleave machine events halt =>
    apply quiet.append events
    simp [Event.notes]

theorem quiet_step {h : Host σ} (hquiet : h.Quiet) (s : Scan σ) (c : Char) (quiet : s.Quiet) :
  (s.step h c).Quiet
  := by
  by_cases running : s.halt = none
  · rcases step_cases h running c with gathers | ⟨g, gathers, -, marked⟩
    · apply gathers.quiet quiet
    · apply marked.quiet hquiet (gathers.quiet quiet)
  · rw [step_of_halt h (Option.isSome_iff_ne_none.mpr running)]
    apply quiet

/-! ### Blocks -/

/-- The log goes on telling of the open blocks at a mark. -/
theorem Marked.tracks {h : Host σ} (hquiet : h.Quiet) {s m : Scan σ} {c : Char}
    (marked : s.Marked h m c) (tracks : Log.Tracks s.log s.machine.blocks) :
  Log.Tracks m.log m.machine.blocks
  := by
  have hdispatch (guard : Bool) :
      Log.Tracks (s.log ++ (s.machine.dispatch h guard).1.log) s.machine.blocks := by
    apply tracks.append
    intro e he
    apply Dispatch.kind?_of_mem_log (hquiet.notes_dispatch s.machine guard) he
  cases marked with
  | refuse kind place machine events halt =>
    rw [log, events, machine]
    apply tracks
  | comment machine events halt =>
    rw [log, events, machine]
    apply tracks
  | stop machine events halt =>
    rw [log_of_events events, List.flatMap_singleton, machine, Machine.blocks_dispatch]
    apply hdispatch
  | enter hblocks machine events halt =>
    subst hblocks
    have hentered := (hdispatch true).enter (s.machine.dispatch h true).1.truthy
    rw [List.append_assoc] at hentered
    rw [log_of_events events, machine]
    apply hentered
  | leave hleave machine events halt =>
    rw [log_of_events events, machine]
    apply tracks.leave hleave

theorem tracks_step {h : Host σ} (hquiet : h.Quiet) (s : Scan σ) (c : Char)
    (tracks : Log.Tracks s.log s.machine.blocks) :
  Log.Tracks (s.step h c).log (s.step h c).machine.blocks
  := by
  by_cases running : s.halt = none
  · rcases log_cases_step h running c with ⟨gathers, hlog⟩ | ⟨g, gathers, hlog, marked⟩
    · rw [hlog, gathers.blocks]
      apply tracks
    · apply marked.tracks hquiet
      rw [hlog, gathers.blocks]
      apply tracks
  · rw [step_of_halt h (Option.isSome_iff_ne_none.mpr running)]
    apply tracks

end Scan

/-! ### The warning at the end -/

namespace Dispatch

/-- The warning stands at the end of what is logged about an instruction that stops the script. -/
theorem log_of_aborts {d : Dispatch} (quiet : d.notes = []) (aborts : d.aborts = true) :
  ∃ front, d.log = front ++ [Log.abortLine] ∧ Log.abortLine ∉ front
  := by
  obtain ⟨components, reply, rfl, habort⟩ := exists_of_aborts aborts
  use [Log.callLine components false, Log.resultLine reply.result]
  rw [log_called components false quiet, if_pos habort]
  constructor
  · rfl
  · simp [Log.abortLine, Log.callLine, Log.resultLine]

/-- The warning is not logged about any other instruction. -/
theorem abortLine_not_mem_log {d : Dispatch} (quiet : d.notes = []) (goes : d.aborts = false) :
  Log.abortLine ∉ d.log
  := by
  cases d with
  | blank => decide
  | skipped components => simp [log_skipped, Log.abortLine, Log.skipLine]
  | called components guard reply =>
    rw [log_called components guard quiet]
    cases guard with
    | true =>
      split
      · simp [Log.abortLine, Log.callLine, Log.resultLine, abortNote, entry]
      · simp [Log.abortLine, Log.callLine, Log.resultLine]
    | false =>
      have habort : reply.abort = false := goes
      rw [habort]
      simp [Log.abortLine, Log.callLine, Log.resultLine]

end Dispatch

namespace Scan

/-- The warning is in the log of a run that was aborted, at its end only, and of no other. -/
structure Warns (s : Scan σ) : Prop where
  aborted : s.halt = some .aborted →
    ∃ before, s.log = before ++ [Log.abortLine] ∧ Log.abortLine ∉ before
  otherwise : s.halt ≠ some .aborted → Log.abortLine ∉ s.log

/-- Lines without the warning keep it out of the log of a run that is not aborted. -/
theorem Warns.of_append {s s' : Scan σ} (hs : Log.abortLine ∉ s.log) {new : List Log.Entry}
    (hlog : s'.log = s.log ++ new) (hnew : Log.abortLine ∉ new)
    (hhalt : s'.halt ≠ some .aborted) :
  s'.Warns
  := by
  constructor
  · intro aborted
    apply absurd aborted hhalt
  · intro _ hmem
    rw [hlog] at hmem
    rcases List.mem_append.mp hmem with hmem | hmem
    · apply hs hmem
    · apply hnew hmem

theorem Marked.warns {h : Host σ} (hquiet : h.Quiet) {s m : Scan σ} {c : Char}
    (marked : s.Marked h m c) (hs : Log.abortLine ∉ s.log) :
  m.Warns
  := by
  cases marked with
  | refuse kind place machine events halt =>
    have hnil := events.trans (List.append_nil _).symm
    apply Warns.of_append hs (log_of_events hnil) List.not_mem_nil
    rw [halt]
    rintro ⟨⟩
  | comment machine events halt =>
    have hnil := events.trans (List.append_nil _).symm
    apply Warns.of_append hs (log_of_events hnil) List.not_mem_nil
    rw [halt]
    rintro ⟨⟩
  | stop machine events halt =>
    have hlog := log_of_events events
    rw [List.flatMap_singleton, Event.log] at hlog
    have hnotes := hquiet.notes_dispatch s.machine false
    cases aborts : (s.machine.dispatch h false).1.aborts with
    | true =>
      obtain ⟨front, hfront, hnot⟩ := Dispatch.log_of_aborts hnotes aborts
      rw [aborts, if_pos rfl] at halt
      constructor
      · intro _
        use s.log ++ front
        rw [hlog, hfront, List.append_assoc]
        refine ⟨rfl, ?_⟩
        intro hmem
        rcases List.mem_append.mp hmem with hmem | hmem
        · apply hs hmem
        · apply hnot hmem
      · intro hhalt
        apply absurd halt hhalt
    | false =>
      rw [aborts] at halt
      apply Warns.of_append hs hlog (Dispatch.abortLine_not_mem_log hnotes aborts)
      rw [halt]
      rintro ⟨⟩
  | enter hblocks machine events halt =>
    have hnot := Dispatch.abortLine_not_mem_log (hquiet.notes_dispatch s.machine true)
      (s.machine.aborts_dispatch_guard h)
    apply Warns.of_append hs (log_of_events events)
    · rw [List.flatMap_cons, List.flatMap_singleton, Event.log_entered]
      simp only [List.mem_append, List.mem_singleton, not_or]
      refine ⟨hnot, ?_⟩
      rintro ⟨⟩
    · rw [halt]
      rintro ⟨⟩
  | leave hleave machine events halt =>
    apply Warns.of_append hs (log_of_events events)
    · rw [List.flatMap_singleton, Event.log_left, List.mem_singleton]
      rintro ⟨⟩
    · rw [halt]
      rintro ⟨⟩

theorem warns_step {h : Host σ} (hquiet : h.Quiet) (s : Scan σ) (c : Char) (warns : s.Warns) :
  (s.step h c).Warns
  := by
  by_cases running : s.halt = none
  · have hs : Log.abortLine ∉ s.log := by
      apply warns.otherwise
      rw [running]
      rintro ⟨⟩
    rcases log_cases_step h running c with ⟨gathers, hlog⟩ | ⟨g, gathers, hlog, marked⟩
    · apply Warns.of_append hs (hlog.trans (List.append_nil _).symm) List.not_mem_nil
      rcases gathers.halt with hhalt | ⟨name, place, hhalt⟩
      · rw [hhalt]
        rintro ⟨⟩
      · rw [hhalt]
        rintro ⟨⟩
    · apply marked.warns hquiet
      rw [hlog]
      apply hs
  · rw [step_of_halt h (Option.isSome_iff_ne_none.mpr running)]
    apply warns

end Scan

/-! ### Instructions that are passed over -/

/-- In an inactive block an instruction with components is passed over. -/
theorem Machine.dispatch_of_inactive (h : Host σ) (m : Machine σ) (guard : Bool)
    (hpending : m.pending ≠ []) (inactive : m.blocks.current.active = false) :
  (m.dispatch h guard).1 = .skipped m.pending
  := by
  simp [dispatch, Host.dispatch, hpending, inactive]

/-- No other instruction is logged as passed over. -/
theorem Machine.skips_dispatch {h : Host σ} (hquiet : h.Quiet) (m : Machine σ) (guard : Bool)
    (hskipped : ¬ (m.pending ≠ [] ∧ m.blocks.current.active = false)) :
  (m.dispatch h guard).1.log.filter (fun e => e.kind? = some .skip) = []
  := by
  by_cases hpending : m.pending = []
  · have hblank : (m.dispatch h guard).1 = .blank := by
      simp [dispatch, Host.dispatch, hpending]
    rw [hblank]
    apply Log.filter_kind?_eq_nil
    intro e he
    simp [Dispatch.kind?_of_mem_log_blank he]
  · have active : m.blocks.current.active = true := by simpa [hpending] using hskipped
    rw [m.dispatch_of_active h guard hpending active]
    apply Log.filter_kind?_eq_nil
    intro e he
    rcases Dispatch.mem_log_called (hquiet m.state m.pending) he with rfl | rfl | hnone
    · simp
    · simp
    · simp [hnone]

namespace Scan

/-- From `s` to `s'` every instruction with components that has ended in an inactive block has left
one line about it, and has no result; and no other instruction has left such a line. -/
structure LogsSkips (s s' : Scan σ) : Prop where
  skipped : ∀ components, s'.ended = s.ended ++ [components] → components ≠ [] →
    s.machine.blocks.current.active = false →
    s'.log.filter (fun e => e.source = .dispatch)
      = s.log.filter (fun e => e.source = .dispatch) ++ [Log.skipLine components]
  otherwise : s'.log.filter (fun e => e.kind? = some .skip)
      = s.log.filter (fun e => e.kind? = some .skip)
    ∨ ∃ components, s'.ended = s.ended ++ [components] ∧ components ≠ []
      ∧ s.machine.blocks.current.active = false

/-- Where no instruction ends, none is logged as passed over. -/
theorem LogsSkips.of_ended {s s' : Scan σ} (hended : s'.ended = s.ended) {new : List Log.Entry}
    (hlog : s'.log = s.log ++ new) (hnew : ∀ e ∈ new, e.kind? ≠ some .skip) :
  s.LogsSkips s'
  := by
  constructor
  · intro components hcomponents
    rw [hended, List.self_eq_append_right] at hcomponents
    cases hcomponents
  · left
    rw [hlog, List.filter_append, Log.filter_kind?_eq_nil hnew, List.append_nil]

/-- Where an instruction ends, it is logged as passed over if it has components and the current
block is inactive. Behind it there may be the line about a block. -/
theorem logsSkips_of_dispatched {h : Host σ} (hquiet : h.Quiet) {s s' : Scan σ} {guard : Bool}
    {trailing : List Event}
    (hevents : s'.events = s.events ++ .dispatched (s.machine.dispatch h guard).1 :: trailing)
    (hended : trailing.filterMap Event.ended? = [])
    (htrailing : ∀ e ∈ trailing.flatMap Event.log,
      e.source ≠ .dispatch ∧ e.kind? ≠ some .skip) :
  s.LogsSkips s'
  := by
  have hends : s'.ended = s.ended ++ [s.machine.pending] := by
    rw [ended_of_events hevents, List.filterMap_cons, hended, Event.ended?,
      Machine.components_dispatch]
  have hlog := log_of_events hevents
  rw [List.flatMap_cons, Event.log] at hlog
  constructor
  · intro components hcomponents hne inactive
    obtain rfl : s.machine.pending = components := by
      rw [hends] at hcomponents
      simpa using hcomponents
    have hnone : (trailing.flatMap Event.log).filter (fun e => e.source = .dispatch) = [] := by
      apply List.filter_eq_nil_iff.mpr
      intro e he
      simp [(htrailing e he).1]
    rw [hlog, s.machine.dispatch_of_inactive h guard hne inactive, Dispatch.log_skipped,
      List.filter_append, List.filter_append, hnone, List.append_nil]
    rfl
  · by_cases hskipped : s.machine.pending ≠ [] ∧ s.machine.blocks.current.active = false
    · right
      use s.machine.pending
    · left
      have hnone := Log.filter_kind?_eq_nil fun e he => (htrailing e he).2
      rw [hlog, List.filter_append, List.filter_append, hnone,
        s.machine.skips_dispatch hquiet guard hskipped, List.append_nil, List.append_nil]

theorem Marked.logsSkips {h : Host σ} (hquiet : h.Quiet) {s m : Scan σ} {c : Char}
    (marked : s.Marked h m c) :
  s.LogsSkips m
  := by
  cases marked with
  | refuse kind place machine events halt =>
    have hnil := events.trans (List.append_nil _).symm
    apply LogsSkips.of_ended _ (log_of_events hnil)
    · rintro e ⟨⟩
    · rw [ended, events]
      rfl
  | comment machine events halt =>
    have hnil := events.trans (List.append_nil _).symm
    apply LogsSkips.of_ended _ (log_of_events hnil)
    · rintro e ⟨⟩
    · rw [ended, events]
      rfl
  | stop machine events halt =>
    apply logsSkips_of_dispatched hquiet events rfl
    rintro e ⟨⟩
  | enter hblocks machine events halt =>
    apply logsSkips_of_dispatched hquiet events rfl
    intro e he
    rw [List.flatMap_singleton, Event.log_entered, List.mem_singleton] at he
    rw [he, Log.kind?_enterLine]
    exact ⟨by rintro ⟨⟩, by rintro ⟨⟩⟩
  | leave hleave machine events halt =>
    apply LogsSkips.of_ended _ (log_of_events events)
    · intro e he
      rw [List.flatMap_singleton, Event.log_left, List.mem_singleton] at he
      rw [he, Log.kind?_closeLine]
      rintro ⟨⟩
    · rw [ended_of_events events]
      apply List.append_nil

theorem logsSkips_step {h : Host σ} (hquiet : h.Quiet) (s : Scan σ) (c : Char) :
  s.LogsSkips (s.step h c)
  := by
  by_cases running : s.halt = none
  · rcases log_cases_step h running c with ⟨gathers, hlog⟩ | ⟨g, gathers, hlog, marked⟩
    · apply LogsSkips.of_ended gathers.ended (hlog.trans (List.append_nil _).symm)
      rintro e ⟨⟩
    · obtain ⟨hskipped, hotherwise⟩ := marked.logsSkips hquiet
      rw [gathers.ended, hlog, gathers.blocks] at hskipped hotherwise
      exact ⟨hskipped, hotherwise⟩
  · rw [step_of_halt h (Option.isSome_iff_ne_none.mpr running)]
    apply LogsSkips.of_ended rfl (List.append_nil _).symm
    rintro e ⟨⟩

end Scan

/-! ### Telling a run from its log -/

namespace Host

/-- The log of a run on a host that logs nothing itself is a faithful trace of the run. The lines
about executed instructions are in order what the host executed, each with the line about the
result directly behind it, and there are no other results. Every line about a block that is entered
gives it the next number, from one on, and as its depth the number of blocks that are open with it;
every line about a block that is left closes the latest line that is still open, and returns to the
block of the one around it, or to the root. The warning is logged exactly when the run is aborted,
and it is the last line. At every character the host executes at most one instruction, which is
logged as a guard exactly if the character begins a block. An instruction with components that ends
in an inactive block leaves one line about instructions, which says that it is passed over; and no
other instruction leaves such a line. -/
theorem scan_logs_faithfully (h : Host σ) (quiet : h.Quiet) (s : σ) :
  (∀ text,
    Log.answers (h.scan s text).log
      = (h.scan s text).interactions.filterMap Interaction.answer?
    ∧ (h.scan s text).log.filter (fun e => e.kind? = some .result)
      = (h.scan s text).interactions.filterMap Interaction.resultLine?
    ∧ (∀ before e after, (h.scan s text).log = before ++ e :: after →
      (e.kind? = some .enter → ∃ active, e = Log.enterLine
          ⟨before.countP Log.Entry.isEnter + 1, active⟩ ((Log.unclosed before).length + 1))
      ∧ (e.kind? = some .close → ∃ closed depth outer parent,
        Log.unclosed before = Log.enterLine closed depth :: outer
          ∧ e = Log.closeLine closed parent
          ∧ (outer = [] ∧ parent = ⟨0, true⟩
            ∨ ∃ depth rest, outer = Log.enterLine parent depth :: rest)))
    ∧ (Log.abortLine ∈ (h.scan s text).log ↔ (h.scan s text).result = .ok .aborted)
    ∧ ((h.scan s text).result = .ok .aborted →
      ∃ before, (h.scan s text).log = before ++ [Log.abortLine] ∧ Log.abortLine ∉ before))
    ∧ (∀ p c,
      ((h.scan s (p.push c)).calls = (h.scan s p).calls
        ∧ (h.scan s (p.push c)).state = (h.scan s p).state)
      ∨ ∃ components guard reply,
        (h.scan s (p.push c)).calls = (h.scan s p).calls ++ [.call components guard reply]
        ∧ h.execute (h.scan s p).state components = (reply, (h.scan s (p.push c)).state)
        ∧ c = (if guard then '\x7b' else ';'))
    ∧ ∀ p c,
      (∀ components, (h.scan s (p.push c)).ended = (h.scan s p).ended ++ [components] →
        components ≠ [] → (h.scan s p).machine.blocks.current.active = false →
        (h.scan s (p.push c)).log.filter (fun e => e.source = .dispatch)
          = (h.scan s p).log.filter (fun e => e.source = .dispatch)
            ++ [Log.skipLine components])
      ∧ ((h.scan s (p.push c)).log.filter (fun e => e.kind? = some .skip)
          = (h.scan s p).log.filter (fun e => e.kind? = some .skip)
        ∨ ∃ components, (h.scan s (p.push c)).ended = (h.scan s p).ended ++ [components]
          ∧ components ≠ [] ∧ (h.scan s p).machine.blocks.current.active = false)
  := by
  refine ⟨?_, ?_, ?_⟩
  · intro text
    have hquiet : (h.scan s text).Quiet := by
      apply Scan.feed_invariant h (Scan.quiet_step quiet)
      rintro e ⟨⟩
    have tracks : Log.Tracks (h.scan s text).log (h.scan s text).machine.blocks := by
      apply Scan.feed_invariant h (P := fun s => Log.Tracks s.log s.machine.blocks)
        (Scan.tracks_step quiet)
      apply Log.Tracks.start
    have warns : (h.scan s text).Warns := by
      apply Scan.feed_invariant h (Scan.warns_step quiet)
      exact ⟨by rintro ⟨⟩, by rintro - ⟨⟩⟩
    obtain ⟨hanswers, hresults⟩ := Log.lines_of_events hquiet
    refine ⟨hanswers, hresults, tracks.nests, ⟨?_, ?_⟩, ?_⟩
    · intro hmem
      by_cases hhalt : (h.scan s text).halt = some .aborted
      · rw [Scan.result, hhalt]
      · apply absurd hmem (warns.otherwise hhalt)
    · intro aborted
      obtain ⟨before, hlog, -⟩ := warns.aborted (Scan.halt_of_result_aborted aborted)
      rw [hlog]
      apply List.mem_concat_self
    · intro aborted
      apply warns.aborted (Scan.halt_of_result_aborted aborted)
  · intro p c
    rw [scan_push]
    rcases Scan.calls_step h (h.scan s p) c
      with idles | ⟨-, guard, hc, components, reply, hcalls, hexecute⟩
    · apply Or.inl idles
    · right
      use components, guard, reply
  · intro p c
    rw [scan_push]
    obtain ⟨hskipped, hotherwise⟩ := Scan.logsSkips_step quiet (h.scan s p) c
    exact ⟨hskipped, hotherwise⟩

/-- A block with a block inside it, whose guard does not hold, and behind both an instruction at
which the host asks for a stop. -/
theorem scan_logs_faithfully_nested :
  let h : Host Unit :=
    { reset := id
      lookup := fun _ _ => none
      execute := fun s components =>
        ({ result := .bool (components.length = 1), abort := components.length = 3 }, s) }
  let p := "a \x7b b 1 \x7b c"
  let text := p.push ';' ++ " \x7d \x7d d 1 2; e;"
  h.Quiet
    ∧ (h.scan () text).log.map Log.Entry.message
      = ["GScript EXEC/CONDITIONAL: [\"a\"]", " RET --> true",
        "GScript CNTX: <--- Enter [1] depth 1 - Activated: true",
        "GScript EXEC/CONDITIONAL: [\"b\",\"1\"]", " RET --> false",
        "GScript CNTX: <--- Enter [2] depth 2 - Activated: false",
        "GScript EXEC/SKIP: [\"c\"]",
        "GScript CNTX: ---> Close [2], return to [1] - Activated: true",
        "GScript CNTX: ---> Close [1], return to [0] - Activated: true",
        "GScript EXEC: [\"d\",\"1\",\"2\"]", " RET --> false",
        "GScript: Abort script execution"]
    ∧ ((h.scan () p).machine.blocks.current.active = false
      ∧ ∃ components, components ≠ []
        ∧ (h.scan () (p.push ';')).ended = (h.scan () p).ended ++ [components]
        ∧ (h.scan () (p.push ';')).log.filter (fun e => e.source = .dispatch)
          = (h.scan () p).log.filter (fun e => e.source = .dispatch)
            ++ [Log.skipLine components])
    ∧ (h.scan () text).result = .ok .aborted
    ∧ ∃ before, (h.scan () text).log = before ++ [Log.abortLine] ∧ Log.abortLine ∉ before
  := by
  intro h p text
  have quiet : h.Quiet := by
    intro s components
    rfl
  have inactive : (h.scan () p).machine.blocks.current.active = false := by decide +kernel
  -- Components cannot be compared, but how many there are can.
  have hbefore : (h.scan () p).ended.map List.length = [1, 2] := by decide +kernel
  have hafter : (h.scan () (p.push ';')).ended.map List.length = [1, 2, 1] := by decide +kernel
  have hended : ∃ components, components ≠ []
      ∧ (h.scan () (p.push ';')).ended = (h.scan () p).ended ++ [components] := by
    rw [scan_push] at hafter ⊢
    rcases Scan.ends_step h (h.scan () p) ';' with ⟨hsame, -⟩ | ⟨guard, components, -, hends, -⟩
    · rw [hsame, hbefore] at hafter
      cases hafter
    · use components
      rw [hends, List.map_append, hbefore] at hafter
      refine ⟨?_, hends⟩
      rintro rfl
      cases hafter
  have aborted : (h.scan () text).result = .ok .aborted := by
    have hhalt : (h.scan () text).halt = some .aborted := by decide +kernel
    rw [Scan.result, hhalt]
  obtain ⟨hrun, -, hskips⟩ := scan_logs_faithfully h quiet ()
  obtain ⟨-, -, -, -, hlast⟩ := hrun text
  obtain ⟨components, hne, hends⟩ := hended
  have hskipped := (hskips p ';').1 components hends hne inactive
  refine ⟨quiet, ?_, ⟨inactive, components, hne, hends, hskipped⟩, aborted, hlast aborted⟩
  decide +kernel

end Host

end GuardedScript
