import GuardedScript.Proofs.Runs

/-!
# Active blocks

A block is entered with the truth of its guard, and nothing looks at the blocks around it. Still
an inactive block has only inactive blocks inside it: its instructions never reach the host, so
the guards among them count as false.

So as long as an inactive block is open the host executes nothing, and whenever it executes an
instruction, the guards of all blocks around that instruction have been executed and held.
-/

universe u

namespace GuardedScript

variable {σ : Type u}

/-! ### Dispatching -/

/-- An instruction that ends is executed in an active block, or it is passed over: then the host
sees nothing of it, and as a guard it does not hold. -/
theorem Machine.dispatch_cases (h : Host σ) (m : Machine σ) (guard : Bool) :
  (m.blocks.current.active = true
      ∧ (m.dispatch h guard).1 = .called m.pending guard (h.execute m.state m.pending).1
      ∧ (m.dispatch h guard).2.state = (h.execute m.state m.pending).2)
    ∨ (Event.dispatched (m.dispatch h guard).1).interaction? = none
      ∧ (m.dispatch h guard).1.truthy = false ∧ (m.dispatch h guard).2.state = m.state
  := by
  by_cases hempty : m.pending.isEmpty = true
  · right
    simp [dispatch, Host.dispatch, hempty, Dispatch.truthy, Event.interaction?]
  · cases hactive : m.blocks.current.active with
    | true =>
      left
      simp [dispatch, Host.dispatch, hempty, hactive]
    | false =>
      right
      simp [dispatch, Host.dispatch, hempty, hactive, Dispatch.truthy, Event.interaction?]

namespace Scan

/-! ### Calls -/

/-- From `s` to `s'` the host has executed one instruction, as a guard or not. -/
def Calls (h : Host σ) (s s' : Scan σ) (guard : Bool) : Prop :=
  ∃ components reply, s'.calls = s.calls ++ [.call components guard reply]
    ∧ h.execute s.state components = (reply, s'.state)

/-- From `s` to `s'` the host has executed nothing, and its state is as it was. -/
def Idles (s s' : Scan σ) : Prop :=
  s'.calls = s.calls ∧ s'.state = s.state

/-- An instruction that ends is passed over, or the current block is active and the host executes
it. -/
theorem calls_of_dispatch {h : Host σ} {s s' : Scan σ} {guard : Bool} {trailing : List Event}
    (hstate : s'.state = (s.machine.dispatch h guard).2.state)
    (hevents : s'.events = s.events ++ .dispatched (s.machine.dispatch h guard).1 :: trailing)
    (htrailing : trailing.filterMap Event.interaction? = []) :
  s.Idles s' ∨ s.machine.blocks.current.active = true ∧ Calls h s s' guard
  := by
  rcases s.machine.dispatch_cases h guard with ⟨active, hd, hexecute⟩ | ⟨hd, -, hsame⟩
  · right
    use active, s.machine.pending, (h.execute s.state s.machine.pending).1
    constructor
    · simp [calls, interactions, hevents, hd, Event.interaction?, htrailing, Interaction.isCall,
        state]
    · rw [hstate, hexecute]
      rfl
  · left
    constructor
    · simp [calls, interactions, hevents, hd, htrailing]
    · apply hstate.trans hsame

/-- What adds no interactions and leaves the machine's state alone lets the host idle. -/
theorem idles_of_events {s s' : Scan σ} {new : List Event} (hstate : s'.state = s.state)
    (hevents : s'.events = s.events ++ new) (hnew : new.filterMap Event.interaction? = []) :
  s.Idles s'
  := by
  constructor
  · simp [calls, interactions, hevents, hnew]
  · apply hstate

/-- At a mark the host idles; or the current block is active, the mark ends an instruction, as a
guard or not, and the host executes it. -/
theorem Marked.calls {h : Host σ} {s m : Scan σ} {c : Char} (marked : s.Marked h m c) :
  s.Idles m ∨ s.machine.blocks.current.active = true
    ∧ ∃ guard, c = (if guard then '\x7b' else ';') ∧ Calls h s m guard
  := by
  cases marked with
  | refuse kind place machine events halt =>
    rw [← List.append_nil s.events] at events
    apply Or.inl (idles_of_events (congrArg Machine.state machine) events rfl)
  | comment machine events halt =>
    rw [← List.append_nil s.events] at events
    apply Or.inl (idles_of_events (congrArg Machine.state machine) events rfl)
  | stop machine events halt =>
    have hstate : m.state = (s.machine.dispatch h false).2.state := by rw [state, machine]
    rcases calls_of_dispatch hstate events rfl with idles | ⟨active, hcalls⟩
    · apply Or.inl idles
    · right
      use active, false, rfl
  | enter hblocks machine events halt =>
    have hstate : m.state = (s.machine.dispatch h true).2.state := by rw [state, machine]
    rcases calls_of_dispatch hstate events rfl with idles | ⟨active, hcalls⟩
    · apply Or.inl idles
    · right
      use active, true, rfl
  | leave hleave machine events halt =>
    have hstate : m.state = s.state := by rw [state, machine, state]
    apply Or.inl (idles_of_events hstate events rfl)

/-- At a character the host idles; or the current block is active, the character ends an
instruction, as a guard or not, and the host executes it. -/
theorem calls_step (h : Host σ) (s : Scan σ) (c : Char) :
  s.Idles (s.step h c) ∨ s.machine.blocks.current.active = true
    ∧ ∃ guard, c = (if guard then '\x7b' else ';') ∧ Calls h s (s.step h c) guard
  := by
  by_cases running : s.halt = none
  · rcases step_cases h running c with gathers | ⟨g, gathers, -, marked⟩
    · exact .inl ⟨gathers.calls, gathers.state⟩
    · simp only [Idles, Calls, ← gathers.blocks, ← gathers.calls, ← gathers.state]
      apply marked.calls
  · rw [step_of_halt h (Option.isSome_iff_ne_none.mpr running)]
    exact .inl ⟨rfl, rfl⟩

/-! ### Blocks -/

/-- Between `s` and `s'` the host executed a guard, the guard held, and the block `b` began. -/
def GuardHolds (h : Host σ) (s s' : Scan σ) (b : Block) : Prop :=
  ∃ (earlier : List Event) (components : List Value) (reply : Reply) (depth : Nat),
    s.events <+: earlier
    ∧ s'.events = earlier ++ [.dispatched (.called components true reply), .entered b depth]
    ∧ h.execute s.state components = (reply, s'.state)
    ∧ reply.result.truthy = true ∧ reply.abort = false

/-- A guard that holds was executed in an active block. -/
theorem guardHolds_of_truthy {h : Host σ} {s s' : Scan σ} {b : Block} {depth : Nat}
    (hstate : s'.state = (s.machine.dispatch h true).2.state)
    (hevents : s'.events
      = s.events ++ [.dispatched (s.machine.dispatch h true).1, .entered b depth])
    (holds : (s.machine.dispatch h true).1.truthy = true) :
  s.machine.blocks.current.active = true ∧ GuardHolds h s s' b
  := by
  rcases s.machine.dispatch_cases h true with ⟨active, hd, hexecute⟩ | ⟨-, hd, -⟩
  · rw [hd] at hevents holds
    obtain ⟨habort, htruthy⟩ := Bool.and_eq_true_iff.mp holds
    have hreply : h.execute s.state s.machine.pending
        = ((h.execute s.state s.machine.pending).1, s'.state) := by
      rw [hstate, hexecute]
      rfl
    exact ⟨active, s.events, s.machine.pending, _, depth, List.prefix_refl _, hevents, hreply,
      htruthy, by simpa using habort⟩
  · rw [hd] at holds
    cases holds

/-- Components that are gathered before a guard are gathered before it holds. -/
theorem Gathers.guardHolds {h : Host σ} {s g s' : Scan σ} {b : Block} (gathers : s.Gathers g)
    (holds : GuardHolds h g s' b) :
  GuardHolds h s s' b
  := by
  obtain ⟨earlier, components, reply, depth, hearlier, hevents, hexecute, hreply⟩ := holds
  rw [gathers.state] at hexecute
  use earlier, components, reply, depth, gathers.events_prefix.trans hearlier

/-- What a character can do to the open blocks: nothing; or it enters a block, which is active
only if the current one is and the guard was executed and held; or the current one closes. -/
theorem blocks_step (h : Host σ) (s : Scan σ) (c : Char) :
  (s.step h c).machine.blocks = s.machine.blocks
    ∨ (∃ active, (s.step h c).machine.blocks = s.machine.blocks.enter active
      ∧ (active = true → c = '\x7b' ∧ s.machine.blocks.current.active = true
        ∧ GuardHolds h s (s.step h c) (s.step h c).machine.blocks.current))
    ∨ ∃ closed, s.machine.blocks.leave? = some (closed, (s.step h c).machine.blocks)
  := by
  by_cases running : s.halt = none
  · rcases step_cases h running c with gathers | ⟨g, gathers, -, marked⟩
    · apply Or.inl gathers.blocks
    · rw [← gathers.blocks]
      cases marked with
      | refuse kind place machine events halt =>
        left
        rw [machine]
      | comment machine events halt =>
        left
        rw [machine]
      | stop machine events halt =>
        left
        rw [machine, Machine.blocks_dispatch]
      | enter hblocks machine events halt =>
        right
        left
        use (g.machine.dispatch h true).1.truthy
        constructor
        · rw [machine, ← hblocks]
        · intro truthy
          have hstate : (s.step h '\x7b').state = (g.machine.dispatch h true).2.state := by
            rw [state, machine]
          obtain ⟨active, holds⟩ := guardHolds_of_truthy hstate events truthy
          rw [machine]
          exact ⟨rfl, active, gathers.guardHolds holds⟩
      | leave hleave machine events halt =>
        right
        right
        rw [machine]
        exact ⟨_, hleave⟩
  · rw [step_of_halt h (Option.isSome_iff_ne_none.mpr running)]
    apply Or.inl rfl

end Scan

/-! ### Blocks inside inactive blocks -/

namespace Blocks

/-- Leaving a block gives out no number. -/
theorem nextId_of_leave? {b rest : Blocks} {closed : Block}
    (h : b.leave? = some (closed, rest)) :
  rest.nextId = b.nextId
  := by
  obtain ⟨current, outer, nextId⟩ := b
  cases outer with
  | nil => cases h
  | cons parent outer =>
    cases h
    rfl

/-- Every block inside an inactive block is inactive. -/
def Nested (b : Blocks) : Prop :=
  b.toList.Pairwise fun inner outer => outer.active = false → inner.active = false

theorem nested_start :
  start.Nested
  := by
  apply List.pairwise_singleton

/-- All blocks around an active block are active. -/
theorem Nested.active_of_mem {b : Blocks} (nested : b.Nested) (active : b.current.active = true)
    {outer : Block} (h : outer ∈ b.toList) :
  outer.active = true
  := by
  rcases List.mem_cons.mp h with rfl | h
  · apply active
  · cases inactive : outer.active with
    | true => rfl
    | false =>
      rw [(List.pairwise_cons.mp nested).1 outer h inactive] at active
      cases active

theorem Nested.enter {b : Blocks} (nested : b.Nested) {active : Bool}
    (h : active = true → b.current.active = true) :
  (b.enter active).Nested
  := by
  apply List.Pairwise.cons _ nested
  intro outer houter inactive
  cases active with
  | false => rfl
  | true =>
    rw [nested.active_of_mem (h rfl) houter] at inactive
    cases inactive

theorem Nested.leave {b rest : Blocks} {closed : Block} (nested : b.Nested)
    (h : b.leave? = some (closed, rest)) :
  rest.Nested
  := by
  rw [Nested, toList_eq_of_leave? h] at nested
  apply nested.of_cons

end Blocks

/-- In every run, every block inside an inactive block is inactive. -/
theorem Host.nested_scan (h : Host σ) (s : σ) (text : String) :
  (h.scan s text).machine.blocks.Nested
  := by
  apply Scan.feed_invariant h (P := fun s => s.machine.blocks.Nested)
  · intro s c nested
    rcases Scan.blocks_step h s c with same | ⟨active, henter, hactive⟩ | ⟨closed, hleave⟩
    · rw [same]
      apply nested
    · rw [henter]
      apply nested.enter
      intro holds
      apply (hactive holds).2.1
    · apply nested.leave hleave
  · apply Blocks.nested_start

/-! ### Numbers of blocks -/

namespace Blocks

/-- The number of every open block has been given out. -/
def Numbered (b : Blocks) : Prop :=
  ∀ block ∈ b.toList, block.id < b.nextId

theorem numbered_start :
  start.Numbered
  := by
  intro block hblock
  rw [toList_start, List.mem_singleton] at hblock
  rw [hblock]
  apply Nat.zero_lt_one

/-- From `b` to `b'` blocks have been entered and left. Numbers have only been given out, and a
block whose number was given out before is still open only if it was open. -/
structure Later (b b' : Blocks) : Prop where
  nextId : b.nextId ≤ b'.nextId
  mem : ∀ block ∈ b'.toList, block.id < b.nextId → block ∈ b.toList
  numbered : b.Numbered → b'.Numbered

namespace Later

theorem refl (b : Blocks) :
  b.Later b
  where
  nextId := Nat.le_refl _
  mem _ hblock _ := hblock
  numbered := id

theorem trans {b b' b'' : Blocks} (first : b.Later b') (second : b'.Later b'') :
  b.Later b''
  where
  nextId := Nat.le_trans first.nextId second.nextId
  mem block hblock hid :=
    first.mem block (second.mem block hblock (Nat.lt_of_lt_of_le hid first.nextId)) hid
  numbered h := second.numbered (first.numbered h)

theorem enter (b : Blocks) (active : Bool) :
  b.Later (b.enter active)
  := by
  constructor
  · apply Nat.le_succ
  · intro block hblock hid
    rcases List.mem_cons.mp hblock with rfl | hblock
    · apply absurd hid (Nat.lt_irrefl _)
    · apply hblock
  · intro numbered block hblock
    rcases List.mem_cons.mp hblock with rfl | hblock
    · apply Nat.lt_succ_self
    · apply Nat.lt_succ_of_lt (numbered block hblock)

theorem leave {b rest : Blocks} {closed : Block} (h : b.leave? = some (closed, rest)) :
  b.Later rest
  := by
  have hid : rest.nextId = b.nextId := nextId_of_leave? h
  have hmem : ∀ block ∈ rest.toList, block ∈ b.toList := by
    intro block hblock
    rw [toList_eq_of_leave? h]
    apply List.mem_cons_of_mem _ hblock
  constructor
  · apply Nat.le_of_eq hid.symm
  · intro block hblock _
    apply hmem block hblock
  · intro numbered block hblock
    rw [hid]
    apply numbered block (hmem block hblock)

end Later

end Blocks

/-- A character enters and leaves blocks. -/
theorem Scan.later_step (h : Host σ) (s : Scan σ) (c : Char) :
  s.machine.blocks.Later (s.step h c).machine.blocks
  := by
  rcases blocks_step h s c with same | ⟨active, henter, -⟩ | ⟨closed, hleave⟩
  · rw [same]
    apply Blocks.Later.refl
  · rw [henter]
    apply Blocks.Later.enter
  · apply Blocks.Later.leave hleave

/-- A text enters and leaves blocks. -/
theorem Scan.later_feed (h : Host σ) (s : Scan σ) (text : List Char) :
  s.machine.blocks.Later (s.feed h text).machine.blocks
  := by
  apply feed_invariant h (P := fun t => s.machine.blocks.Later t.machine.blocks)
  · intro t c later
    apply later.trans (later_step h t c)
  · apply Blocks.Later.refl

/-- In every run, the number of every open block has been given out. -/
theorem Host.numbered_scan (h : Host σ) (s : σ) (text : String) :
  (h.scan s text).machine.blocks.Numbered
  := by
  apply (Scan.later_feed h (Scan.start s) text.toList).numbered
  apply Blocks.numbered_start

/-! ### While an inactive block is open -/

/-- A character makes the host execute nothing while an inactive block is open. -/
theorem Scan.idles_step_of_inactive (h : Host σ) {s : Scan σ} (nested : s.machine.blocks.Nested)
    {b : Block} (hopen : b ∈ s.machine.blocks.toList) (inactive : b.active = false) (c : Char) :
  s.Idles (s.step h c)
  := by
  rcases calls_step h s c with idles | ⟨active, -⟩
  · apply idles
  · rw [nested.active_of_mem active hopen] at inactive
    cases inactive

/-- The host executes nothing as long as an inactive block stays open. -/
theorem Host.idles_scan_of_inactive (h : Host σ) (s : σ) (p : String) {b : Block}
    (hopen : b ∈ (h.scan s p).machine.blocks.toList) (inactive : b.active = false) (t : String)
    (hstays : b ∈ (h.scan s (p ++ t)).machine.blocks.toList) :
  (h.scan s p).Idles (h.scan s (p ++ t))
  := by
  induction t using String.push_induction with
  | empty =>
    rw [String.append_empty]
    exact ⟨rfl, rfl⟩
  | push t c ih =>
    rw [Text.append_push, scan_push] at hstays ⊢
    have later : (h.scan s p).machine.blocks.Later (h.scan s (p ++ t)).machine.blocks := by
      rw [scan_append]
      apply Scan.later_feed
    have hbefore : b ∈ (h.scan s (p ++ t)).machine.blocks.toList := by
      apply (Scan.later_step h _ c).mem b hstays
      apply Nat.lt_of_lt_of_le (numbered_scan h s p b hopen) later.nextId
    obtain ⟨hcalls, hstate⟩ := ih hbefore
    obtain ⟨hcalls', hstate'⟩ :=
      Scan.idles_step_of_inactive h (nested_scan h s (p ++ t)) hbefore inactive c
    exact ⟨hcalls'.trans hcalls, hstate'.trans hstate⟩

/-! ### Guards that held -/

/-- The guard of the block `b` held in the run of a text: at the opening of `b` in the text the
host executed the guard, the result counts as true, and the host did not ask for a stop. -/
def Host.GuardHeld (h : Host σ) (s : σ) (text : String) (b : Block) : Prop :=
  ∃ p t, text = p.push '\x7b' ++ t
    ∧ Scan.GuardHolds h (h.scan s p) (h.scan s (p.push '\x7b')) b

/-- What held once, held. -/
theorem Host.GuardHeld.push {h : Host σ} {s : σ} {text : String} {b : Block}
    (held : h.GuardHeld s text b) (c : Char) :
  h.GuardHeld s (text.push c) b
  := by
  obtain ⟨p, t, rfl, holds⟩ := held
  use p, t.push c
  rw [Text.append_push]
  exact ⟨rfl, holds⟩

/-- The guard of every active block that is open has held, except for the root. -/
theorem Host.guardHeld_of_active (h : Host σ) (s : σ) (text : String) {b : Block}
    (hopen : b ∈ (h.scan s text).machine.blocks.toList) (active : b.active = true) :
  b = Block.root ∨ h.GuardHeld s text b
  := by
  induction text using String.push_induction with
  | empty =>
    left
    apply List.mem_singleton.mp hopen
  | push text c ih =>
    have hold (hbefore : b ∈ (h.scan s text).machine.blocks.toList) :
        b = Block.root ∨ h.GuardHeld s (text.push c) b := by
      rcases ih hbefore with root | held
      · apply Or.inl root
      · apply Or.inr (held.push c)
    rw [scan_push] at hopen
    rcases Scan.blocks_step h (h.scan s text) c
      with same | ⟨active', henter, hactive⟩ | ⟨closed, hleave⟩
    · rw [same] at hopen
      apply hold hopen
    · rw [henter, Blocks.toList_enter] at hopen
      rcases List.mem_cons.mp hopen with rfl | hopen
      · obtain ⟨rfl, -, holds⟩ := hactive active
        rw [henter] at holds
        right
        use text, ""
        rw [String.append_empty, scan_push]
        exact ⟨rfl, holds⟩
      · apply hold hopen
    · apply hold
      rw [Blocks.toList_eq_of_leave? hleave]
      apply List.mem_cons_of_mem _ hopen

/-! ### Inactive blocks -/

/-- Inactive blocks never reach the host. Every block inside an inactive block is inactive. While
an inactive block `b` stays open, up to and including the character `c` that may close it, the
host executes nothing and its state does not change. And at a character the host idles, or the
character ends an instruction, as a guard or not, which the host executes; then the guards of all
blocks that are open there have been executed, have held, and have not asked for a stop. -/
theorem Host.scan_respects_guards (h : Host σ) (s : σ) :
  (∀ text, (h.scan s text).machine.blocks.toList.Pairwise fun inner outer =>
      outer.active = false → inner.active = false)
    ∧ (∀ p t c b, b ∈ (h.scan s p).machine.blocks.toList → b.active = false →
      b ∈ (h.scan s (p ++ t)).machine.blocks.toList →
      (h.scan s ((p ++ t).push c)).calls = (h.scan s p).calls
        ∧ (h.scan s ((p ++ t).push c)).state = (h.scan s p).state)
    ∧ ∀ p c,
      ((h.scan s (p.push c)).calls = (h.scan s p).calls
        ∧ (h.scan s (p.push c)).state = (h.scan s p).state)
      ∨ ∃ components guard reply,
        (h.scan s (p.push c)).calls = (h.scan s p).calls ++ [.call components guard reply]
        ∧ h.execute (h.scan s p).state components = (reply, (h.scan s (p.push c)).state)
        ∧ c = (if guard then '\x7b' else ';')
        ∧ ∀ b ∈ (h.scan s p).machine.blocks.toList, b = Block.root ∨ h.GuardHeld s p b
  := by
  constructor
  · apply nested_scan
  · constructor
    · intro p t c b hopen inactive hstays
      obtain ⟨hcalls, hstate⟩ := idles_scan_of_inactive h s p hopen inactive t hstays
      rw [scan_push, ← hcalls, ← hstate]
      apply Scan.idles_step_of_inactive h (nested_scan h s (p ++ t)) hstays inactive
    · intro p c
      rw [scan_push]
      rcases Scan.calls_step h (h.scan s p) c
        with idles | ⟨active, guard, hc, components, reply, hcalls, hexecute⟩
      · apply Or.inl idles
      · right
        use components, guard, reply, hcalls, hexecute, hc
        intro b hopen
        apply guardHeld_of_active h s p hopen
        apply (nested_scan h s p).active_of_mem active hopen

/-- No guard holds. From the opening of the outer block to its end the host executes nothing,
neither the guard inside it nor the instructions. -/
theorem Host.scan_respects_guards_twice :
  let h := Host.fixed none { result := .bool false }
  let p := "no \x7b"
  let t := " no \x7b a; \x7d b; "
  let b : Block := ⟨1, false⟩
  b ∈ (h.scan () p).machine.blocks.toList ∧ b.active = false
    ∧ b ∈ (h.scan () (p ++ t)).machine.blocks.toList
    ∧ (h.scan () ((p ++ t).push '\x7d')).calls = (h.scan () p).calls
  := by
  intro h p t b
  have hopen : b ∈ (h.scan () p).machine.blocks.toList := by decide +kernel
  have hstays : b ∈ (h.scan () (p ++ t)).machine.blocks.toList := by decide +kernel
  exact ⟨hopen, rfl, hstays, ((scan_respects_guards h ()).2.1 p t '\x7d' b hopen rfl hstays).1⟩

end GuardedScript
