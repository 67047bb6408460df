import GuardedScript.Proofs.Reading
import GuardedScript.Proofs.Runs

/-!
# Tokens and their places

A token is carried out at the place where it is complete, but the place matters only to the
report of an error. So a scan acts as if the tokens of its text were carried out one after the
other, all at the place where the text begins.
-/

universe u

namespace GuardedScript

variable {σ : Type u}

/-- Why a run stopped, whatever the place. -/
inductive Cause
  | aborted
  | malformed (kind : Malformation)
  | undefined (name : String)
deriving DecidableEq, Repr

/-- Why a run stopped, without the place. -/
def Halt.cause : Halt → Cause
  | aborted => .aborted
  | failed (.malformed kind _) => .malformed kind
  | failed (.undefined name _) => .undefined name

theorem Halt.eq_aborted_of_cause {reason : Halt} (hcause : reason.cause = .aborted) :
  reason = .aborted
  := by
  cases reason with
  | aborted => rfl
  | failed error =>
    cases error with
    | malformed kind place => cases hcause
    | undefined name place => cases hcause

theorem Halt.eq_undefined_of_cause {reason : Halt} {name : String}
    (hcause : reason.cause = .undefined name) :
  ∃ place, reason = .failed (.undefined name place)
  := by
  cases reason with
  | aborted => cases hcause
  | failed error =>
    cases error with
    | malformed kind place => cases hcause
    | undefined name place =>
      cases hcause
      use place

theorem Halt.eq_malformed_of_cause {reason : Halt} {kind : Malformation}
    (hcause : reason.cause = .malformed kind) :
  ∃ place, reason = .failed (.malformed kind place)
  := by
  cases reason with
  | aborted => cases hcause
  | failed error =>
    cases error with
    | malformed kind place =>
      cases hcause
      use place
    | undefined name place => cases hcause

/-- Why a run failed, without the place. -/
def ScriptError.cause : ScriptError → Cause
  | malformed kind _ => .malformed kind
  | undefined name _ => .undefined name

theorem Halt.cause_failed (error : ScriptError) :
  (failed error).cause = error.cause
  := by
  cases error with
  | malformed kind place => rfl
  | undefined name place => rfl

/-- A token does the same at any place, and stops the run for the same reason. -/
theorem Machine.step_place (h : Host σ) (m : Machine σ) (p q : Position) (t : Token) :
  (m.step h p t).machine = (m.step h q t).machine
    ∧ (m.step h p t).events = (m.step h q t).events
    ∧ (m.step h p t).halt.map Halt.cause = (m.step h q t).halt.map Halt.cause
  := by
  cases t with
  | word text => exact ⟨rfl, rfl, rfl⟩
  | literal text => exact ⟨rfl, rfl, rfl⟩
  | reference name =>
    rw [step, step]
    split
    · exact ⟨rfl, rfl, rfl⟩
    · exact ⟨rfl, rfl, rfl⟩
  | stop => exact ⟨rfl, rfl, rfl⟩
  | enter =>
    rw [step, step]
    split
    · exact ⟨rfl, rfl, rfl⟩
    · exact ⟨rfl, rfl, rfl⟩
  | leave =>
    rw [step, step]
    split
    · exact ⟨rfl, rfl, rfl⟩
    · exact ⟨rfl, rfl, rfl⟩
  | comment =>
    rw [step, step]
    split
    · exact ⟨rfl, rfl, rfl⟩
    · exact ⟨rfl, rfl, rfl⟩

namespace Scan

/-- Two runs have acted alike: the same has happened, the machine is the same, and both go on or
both stopped for the same reason. -/
structure ActsAlike (s t : Scan σ) : Prop where
  machine : s.machine = t.machine
  events : s.events = t.events
  cause : s.halt.map Halt.cause = t.halt.map Halt.cause

namespace ActsAlike

theorem refl (s : Scan σ) :
  s.ActsAlike s
  := ⟨rfl, rfl, rfl⟩

theorem symm {s t : Scan σ} (alike : s.ActsAlike t) :
  t.ActsAlike s
  := ⟨alike.machine.symm, alike.events.symm, alike.cause.symm⟩

theorem trans {s t r : Scan σ} (first : s.ActsAlike t) (second : t.ActsAlike r) :
  s.ActsAlike r
  where
  machine := first.machine.trans second.machine
  events := first.events.trans second.events
  cause := first.cause.trans second.cause

/-- Both go on, or neither does. -/
theorem running_iff {s t : Scan σ} (alike : s.ActsAlike t) :
  s.halt = none ↔ t.halt = none
  := by
  rw [← Option.map_eq_none_iff, alike.cause, Option.map_eq_none_iff]

/-- The text of a run is refused if that of the other is. -/
theorem accepted {s t : Scan σ} (alike : s.ActsAlike t) (accepted : s.Accepted) :
  t.Accepted
  := by
  intro kind place hhalt
  have hcause := alike.cause
  rw [hhalt, Option.map_some, Option.map_eq_some_iff] at hcause
  obtain ⟨reason, hreason, hkind⟩ := hcause
  obtain ⟨place', rfl⟩ := Halt.eq_malformed_of_cause hkind
  apply accepted kind place' hreason

/-- A run that goes on acts as before. -/
theorem goOn (s : Scan σ) (lexer : Lexer) (place : Position) :
  (s.goOn lexer place).ActsAlike s
  where
  machine := s.machine_goOn lexer place
  events := s.events_goOn lexer place
  cause := by rw [s.halt_goOn]

/-- Runs that have acted alike carry a token out alike. -/
theorem carryOut (h : Host σ) {s t : Scan σ} (alike : s.ActsAlike t) (token : Token) :
  (s.carryOut h token).ActsAlike (t.carryOut h token)
  := by
  by_cases running : s.halt = none
  · have running' := alike.running_iff.mp running
    obtain ⟨hmachine, hevents, hcause⟩ := s.machine.step_place h s.place t.place token
    rw [carryOut_of_running h running, carryOut_of_running h running', ← alike.machine]
    constructor
    · apply hmachine
    · have hbefore := alike.events
      simp only [Scan.events] at hbefore
      simp only [Scan.events, Array.toList_appendList, hbefore, hevents]
    · apply hcause
  · have stopped : t.halt ≠ none := mt alike.running_iff.mpr running
    rw [carryOut_of_halt h (Option.isSome_iff_ne_none.mpr running),
      carryOut_of_halt h (Option.isSome_iff_ne_none.mpr stopped)]
    apply alike

/-- Runs that have acted alike carry tokens out alike. -/
theorem foldl_carryOut (h : Host σ) (tokens : List Token) {s t : Scan σ}
    (alike : s.ActsAlike t) :
  (tokens.foldl (Scan.carryOut h) s).ActsAlike (tokens.foldl (Scan.carryOut h) t)
  := by
  induction tokens generalizing s t with
  | nil => apply alike
  | cons token rest ih => apply ih (alike.carryOut h token)

end ActsAlike

/-- A scan of a text acts as if the tokens of the text were carried out where it begins; and if
it goes on, then its lexer has read the text. -/
theorem feed_of_reads (h : Host σ) {s : Scan σ} (running : s.halt = none) {text : List Char}
    {tokens : List Token} {next : Lexer} (reads : s.lexer.Reads text tokens next) :
  (s.feed h text).ActsAlike (tokens.foldl (carryOut h) s)
    ∧ ((s.feed h text).halt = none → (s.feed h text).lexer = next)
  := by
  generalize hlexer : s.lexer = l at reads
  induction reads generalizing s with
  | nil l => exact ⟨ActsAlike.refl s, fun _ => hlexer⟩
  | @cons l m n c text first rest hstep hrest ih =>
    rw [← hlexer] at hstep
    have alike : (s.step h c).ActsAlike (first.foldl (carryOut h) s) := by
      rw [step_of_ok h running hstep]
      apply ActsAlike.goOn
    rw [feed_cons, List.foldl_append]
    by_cases running' : (s.step h c).halt = none
    · have hm : (s.step h c).lexer = m := by rw [step_of_goesOn h running hstep running']
      obtain ⟨alike', hn⟩ := ih running' hm
      exact ⟨alike'.trans (alike.foldl_carryOut h rest), hn⟩
    · have stopped := mt alike.running_iff.mpr running'
      rw [feed_of_halt h (Option.isSome_iff_ne_none.mpr running'),
        foldl_carryOut_of_halt h (Option.isSome_iff_ne_none.mpr stopped)]
      exact ⟨alike, fun running'' => absurd running'' running'⟩

/-! ### Runs that differ in their places -/

/-- Two runs differ in their places at most: they have acted alike and read on alike. -/
structure AgreesUpToPlace (s t : Scan σ) : Prop extends ActsAlike s t where
  lexer : s.lexer = t.lexer

namespace AgreesUpToPlace

/-- Runs that differ in their places at most do so when both go on with the same lexer. -/
theorem goOn {s t : Scan σ} (agree : s.AgreesUpToPlace t) (lexer : Lexer) (p q : Position) :
  (s.goOn lexer p).AgreesUpToPlace (t.goOn lexer q)
  := by
  by_cases accepted : s.Accepted
  · rw [goOn_of_accepted accepted, goOn_of_accepted (agree.accepted accepted)]
    exact ⟨⟨agree.machine, agree.events, agree.cause⟩, rfl⟩
  · rw [goOn_of_not_accepted accepted, goOn_of_not_accepted (mt agree.symm.accepted accepted)]
    apply agree

/-- Runs that differ in their places at most do so after one more character. -/
theorem step (h : Host σ) {s t : Scan σ} (agree : s.AgreesUpToPlace t) (c : Char) :
  (s.step h c).AgreesUpToPlace (t.step h c)
  := by
  by_cases running : s.halt = none
  · have running' := agree.running_iff.mp running
    cases hlex : s.lexer.step c with
    | error kind =>
      have hlex' : t.lexer.step c = .error kind := by rw [← agree.lexer, hlex]
      rw [step_of_error h running hlex, step_of_error h running' hlex']
      exact ⟨⟨agree.machine, agree.events, rfl⟩, agree.lexer⟩
    | ok read =>
      obtain ⟨lexer, tokens⟩ := read
      have hlex' : t.lexer.step c = .ok (lexer, tokens) := by rw [← agree.lexer, hlex]
      rw [step_of_ok h running hlex, step_of_ok h running' hlex']
      apply goOn
      use agree.foldl_carryOut h tokens
      rw [lexer_foldl_carryOut, lexer_foldl_carryOut, agree.lexer]
  · have stopped : t.halt ≠ none := mt agree.running_iff.mpr running
    rw [step_of_halt h (Option.isSome_iff_ne_none.mpr running),
      step_of_halt h (Option.isSome_iff_ne_none.mpr stopped)]
    apply agree

/-- Runs that differ in their places at most do so after any text. -/
theorem feed (h : Host σ) {s t : Scan σ} (agree : s.AgreesUpToPlace t) (text : List Char) :
  (s.feed h text).AgreesUpToPlace (t.feed h text)
  := by
  induction text generalizing s t with
  | nil => apply agree
  | cons c rest ih =>
    rw [feed_cons, feed_cons]
    apply ih (agree.step h c)

/-- Runs that differ in their places at most end alike. -/
theorem result {s t : Scan σ} (agree : s.AgreesUpToPlace t) :
  s.result.mapError ScriptError.cause = t.result.mapError ScriptError.cause
  := by
  have hcause := agree.cause
  rw [Scan.result, Scan.result, agree.lexer, agree.machine]
  generalize s.halt = a at hcause ⊢
  generalize t.halt = b at hcause ⊢
  cases a with
  | none =>
    cases b with
    | none =>
      cases t.lexer.finish t.machine.assembling with
      | none => rfl
      | some kind => rfl
    | some reason => cases hcause
  | some reason =>
    cases b with
    | none => cases hcause
    | some reason' =>
      have hreason : reason.cause = reason'.cause := Option.some.inj hcause
      cases reason with
      | aborted => rw [Halt.eq_aborted_of_cause hreason.symm]
      | failed error =>
        cases reason' with
        | aborted => cases Halt.eq_aborted_of_cause hreason
        | failed error' =>
          rw [Halt.cause_failed, Halt.cause_failed] at hreason
          apply congrArg Except.error hreason

end AgreesUpToPlace

end Scan

end GuardedScript
