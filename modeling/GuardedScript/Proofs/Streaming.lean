import GuardedScript.Proofs.Runs

/-!
# Streaming

A scan acts on a text while it reads it. What it has done after a part of a text stays done,
whatever text follows; and once it has stopped, it does nothing more. Only at the end of a text
is there a verdict that more text can change: a text may end too early, inside a literal or an
instruction.
-/

universe u

namespace GuardedScript

variable {σ : Type u}

/-! ### Results that are final -/

/-- The text is found to be malformed where it is read, and not only where it ends. -/
def Malformation.isFinal : Malformation → Bool
  | commentInInstruction => true
  | blockWithoutGuard => true
  | closeWithoutBlock => true
  | variableInWord => true
  | unterminatedLiteral => false
  | unterminatedInstruction => false

/-- A run with the result has stopped before the end of its text, or at it: the host asked for
it, or a variable has no value, or the text is malformed where it was read. -/
def isFinal : Except ScriptError Outcome → Bool
  | .ok .completed => false
  | .ok .aborted => true
  | .error (.malformed kind _) => kind.isFinal
  | .error (.undefined _ _) => true

/-- What is wrong at the end of a text is wrong there only. -/
theorem Lexer.isFinal_finish {l : Lexer} {assembling : Bool} {kind : Malformation}
    (h : l.finish assembling = some kind) :
  kind.isFinal = false
  := by
  rw [finish.eq_def] at h
  split at h
  · cases h
  · cases h
    rfl
  · split at h
    · cases h
      rfl
    · cases h
  · split at h
    · cases h
      rfl
    · cases h

namespace Scan

/-- A run with a final result has stopped. -/
theorem halt_of_isFinal {s : Scan σ} (final : isFinal s.result) :
  s.halt.isSome
  := by
  cases hhalt : s.halt with
  | some reason => rfl
  | none =>
    cases hfinish : s.lexer.finish s.machine.assembling with
    | none => simp [result, hhalt, hfinish, isFinal] at final
    | some kind => simp [result, hhalt, hfinish, isFinal, Lexer.isFinal_finish hfinish] at final

/-- A run is aborted only by the host. -/
theorem halt_of_result_aborted {s : Scan σ} (aborted : s.result = .ok .aborted) :
  s.halt = some .aborted
  := by
  rw [result] at aborted
  split at aborted
  · rename_i hhalt
    apply hhalt
  · cases aborted
  · split at aborted
    · cases aborted
    · cases aborted

/-- A text changes nothing once the result is final. -/
theorem feed_of_isFinal (h : Host σ) {s : Scan σ} (final : isFinal s.result) (text : List Char) :
  s.feed h text = s
  := by
  apply feed_of_halt h (halt_of_isFinal final)

/-! ### Errors -/

/-- A mark at which a run fails does nothing else. -/
theorem Marked.of_failed {h : Host σ} {s m : Scan σ} {c : Char} (marked : s.Marked h m c)
    {error : ScriptError} (failed : m.halt = some (.failed error)) :
  m.machine = s.machine ∧ m.events = s.events
  := by
  cases marked with
  | refuse kind place machine events halt => exact ⟨machine, events⟩
  | comment machine events halt => exact ⟨machine, events⟩
  | stop machine events halt =>
    rw [halt] at failed
    split at failed
    · cases failed
    · cases failed
  | enter hblocks machine events halt =>
    rw [halt] at failed
    cases failed
  | leave hleave machine events halt =>
    rw [halt] at failed
    cases failed

/-- A character at which a run fails ends no instruction and leaves the host's state as it is. -/
theorem step_of_failed (h : Host σ) {s : Scan σ} (running : s.halt = none) {c : Char}
    {error : ScriptError} (failed : (s.step h c).halt = some (.failed error)) :
  (s.step h c).ended = s.ended ∧ (s.step h c).calls = s.calls ∧ (s.step h c).state = s.state
  := by
  rcases step_cases h running c with gathers | ⟨g, gathers, -, marked⟩
  · exact ⟨gathers.ended, gathers.calls, gathers.state⟩
  · obtain ⟨hmachine, hevents⟩ := marked.of_failed failed
    rw [← gathers.ended, ← gathers.calls, ← gathers.state]
    constructor
    · rw [ended, hevents, ended]
    · constructor
      · rw [calls, interactions, hevents, calls, interactions]
      · rw [state, hmachine, state]

end Scan

/-! ### Aborted runs -/

/-- An instruction that stops the script was executed, it guarded no block, and the host asked
for the script to stop. -/
theorem Dispatch.exists_of_aborts {d : Dispatch} (h : d.aborts = true) :
  ∃ components reply, d = .called components false reply ∧ reply.abort = true
  := by
  cases d with
  | blank => cases h
  | skipped components => cases h
  | called components guard reply =>
    obtain ⟨hguard, habort⟩ := Bool.and_eq_true_iff.mp h
    obtain rfl : guard = false := by simpa using hguard
    use components, reply

namespace Scan

/-- If the host has stopped the run, then the last thing it was asked was to execute an
instruction that guards no block, and it asked for the stop in its reply. -/
def AbortsLast (s : Scan σ) : Prop :=
  s.halt = some .aborted → ∃ before components reply,
    s.interactions = before ++ [Interaction.call components false reply] ∧ reply.abort = true

/-- A mark at which a run is aborted ended the instruction that aborted it. -/
theorem Marked.abortsLast {h : Host σ} {s m : Scan σ} {c : Char} (marked : s.Marked h m c) :
  m.AbortsLast
  := by
  intro aborted
  cases marked with
  | refuse kind place machine events halt =>
    rw [halt] at aborted
    cases aborted
  | comment machine events halt =>
    rw [halt] at aborted
    cases aborted
  | stop machine events halt =>
    rw [halt] at aborted
    split at aborted
    · rename_i haborts
      obtain ⟨components, reply, hd, habort⟩ := Dispatch.exists_of_aborts haborts
      use s.interactions, components, reply
      constructor
      · rw [interactions_of_events events, hd]
        rfl
      · apply habort
    · cases aborted
  | enter hblocks machine events halt =>
    rw [halt] at aborted
    cases aborted
  | leave hleave machine events halt =>
    rw [halt] at aborted
    cases aborted

theorem abortsLast_step (h : Host σ) (s : Scan σ) (c : Char) (hs : s.AbortsLast) :
  (s.step h c).AbortsLast
  := by
  by_cases running : s.halt = none
  · rcases step_cases h running c with gathers | ⟨g, -, -, marked⟩
    · intro aborted
      rcases gathers.halt with hhalt | ⟨name, place, hhalt⟩
      · rw [hhalt] at aborted
        cases aborted
      · rw [hhalt] at aborted
        cases aborted
    · apply marked.abortsLast
  · rw [step_of_halt h (Option.isSome_iff_ne_none.mpr running)]
    apply hs

end Scan

theorem Host.abortsLast_scan (h : Host σ) (s : σ) (text : String) :
  (h.scan s text).AbortsLast
  := by
  apply Scan.feed_invariant h (Scan.abortsLast_step h)
  intro aborted
  cases aborted

/-! ### Streaming -/

/-- A scan streams. What passes between run and host while the beginning `p` of a text is scanned
comes first when all of it is scanned. If the result is final after `p`, then result,
interactions and state are the same after every longer text; the last interaction of a run that
the host stopped is the instruction at which it did; and after a character at which a run fails
no instruction ends, none is executed, and the state stays as it was before that character. -/
theorem Host.scan_streams (h : Host σ) (s : σ) (p t : String) :
  (h.scan s p).interactions <+: (h.scan s (p ++ t)).interactions
    ∧ (isFinal (h.scan s p).result = true →
      (h.scan s (p ++ t)).result = (h.scan s p).result
        ∧ (h.scan s (p ++ t)).interactions = (h.scan s p).interactions
        ∧ (h.scan s (p ++ t)).state = (h.scan s p).state)
    ∧ ((h.scan s p).result = .ok .aborted → ∃ before components reply,
      (h.scan s (p ++ t)).interactions = before ++ [.call components false reply]
        ∧ reply.abort = true)
    ∧ ∀ c error, (h.scan s p).halt = none → (h.scan s (p.push c)).halt = some (.failed error) →
      (h.scan s (p.push c ++ t)).ended = (h.scan s p).ended
        ∧ (h.scan s (p.push c ++ t)).calls = (h.scan s p).calls
        ∧ (h.scan s (p.push c ++ t)).state = (h.scan s p).state
  := by
  constructor
  · rw [scan_append]
    apply (Scan.events_prefix_feed h _ _).filterMap
  · constructor
    · intro final
      rw [scan_append, Scan.feed_of_isFinal h final]
      exact ⟨rfl, rfl, rfl⟩
    · constructor
      · intro aborted
        have final : isFinal (h.scan s p).result = true := by rw [aborted, isFinal]
        rw [scan_append, Scan.feed_of_isFinal h final]
        apply abortsLast_scan h s p (Scan.halt_of_result_aborted aborted)
      · intro c error running failed
        have stopped : (h.scan s (p.push c)).halt.isSome := by rw [failed, Option.isSome_some]
        rw [scan_append, Scan.feed_of_halt h stopped]
        rw [scan_push] at failed ⊢
        apply Scan.step_of_failed h running failed

/-- The only instruction stops the script, and a literal behind it that never ends makes no
difference. A comment inside an instruction is an error, and what follows is not executed. -/
theorem Host.scan_streams_stop :
  let h := Host.fixed none { result := .null, abort := true }
  (isFinal (h.scan () "stop;").result = true
      ∧ (h.scan () ("stop;" ++ "\"never closed")).result = (h.scan () "stop;").result)
    ∧ (h.scan () "a b").halt = none
    ∧ (h.scan () ("a b".push '#')).halt = some (.failed (.malformed .commentInInstruction ⟨1, 4⟩))
    ∧ (h.scan () ("a b".push '#' ++ "; stop;")).calls = (h.scan () "a b").calls
  := by
  intro h
  have final : isFinal (h.scan () "stop;").result = true := by decide +kernel
  have running : (h.scan () "a b").halt = none := by decide +kernel
  have failed : (h.scan () ("a b".push '#')).halt
      = some (.failed (.malformed .commentInInstruction ⟨1, 4⟩)) := by decide +kernel
  obtain ⟨-, hfinal, -, -⟩ := scan_streams h () "stop;" "\"never closed"
  obtain ⟨-, -, -, hfailed⟩ := scan_streams h () "a b" "; stop;"
  exact ⟨⟨final, (hfinal final).1⟩, running, failed, (hfailed _ _ running failed).2.1⟩

end GuardedScript
