import GuardedScript.Proofs.Places
import GuardedScript.Proofs.Sequence
import Mathlib.Data.List.Infix

/-!
# Carriage returns

Outside literals a carriage return has no effect but on the columns of what follows it on its line.
So a run goes side by side with the run of its text *without* these carriage returns: where the
first run passes one over, the second stands still, one column further behind; and a line feed
brings both to the first column again.

Which carriage returns are passed over is decided by all that comes before them, because it is the
run that tells literals from the rest. A script whose lines end with a carriage return and a line
feed acts as the script whose lines end with a line feed alone.
-/

universe u

namespace GuardedScript

variable {σ : Type u}

/-! ### Carriage returns that are passed over -/

/-- The mode of a literal. -/
def Mode.isLiteral : Mode → Bool
  | literal _ _ => true
  | _ => false

/-- Outside literals a carriage return has no effect on the lexer. -/
theorem Lexer.step_return {l : Lexer} (outside : l.mode.isLiteral = false) :
  l.step '\r' = .ok (l, [])
  := by
  rw [step.eq_def]
  split
  · rename_i hmode
    rw [hmode] at outside
    cases outside
  · rfl
  · rfl
  · rfl

namespace Scan

/-- The run goes on and reads no literal: a carriage return is passed over. -/
def passesReturns (s : Scan σ) : Bool :=
  s.halt.isNone && !s.lexer.mode.isLiteral

/-- The text without the carriage returns that the run passes over. -/
def withoutReturns (h : Host σ) (s : Scan σ) : List Char → List Char
  | [] => []
  | c :: rest =>
    if c = '\r' ∧ s.passesReturns then withoutReturns h (s.step h c) rest
    else c :: withoutReturns h (s.step h c) rest

/-- The places of the carriage returns that the run passes over, in order. -/
def returnsPassed (h : Host σ) (s : Scan σ) : List Char → List Position
  | [] => []
  | c :: rest =>
    if c = '\r' ∧ s.passesReturns then s.place :: returnsPassed h (s.step h c) rest
    else returnsPassed h (s.step h c) rest

theorem withoutReturns_concat (h : Host σ) (s : Scan σ) (text : List Char) (c : Char) :
  s.withoutReturns h (text ++ [c]) = s.withoutReturns h text
    ++ if c = '\r' ∧ (s.feed h text).passesReturns then [] else [c]
  := by
  induction text generalizing s with
  | nil => rfl
  | cons d rest ih =>
    rw [List.cons_append, withoutReturns, withoutReturns, ih, feed_cons]
    split
    · rfl
    · rfl

theorem returnsPassed_concat (h : Host σ) (s : Scan σ) (text : List Char) (c : Char) :
  s.returnsPassed h (text ++ [c]) = s.returnsPassed h text
    ++ if c = '\r' ∧ (s.feed h text).passesReturns then [(s.feed h text).place] else []
  := by
  induction text generalizing s with
  | nil => rfl
  | cons d rest ih =>
    rw [List.cons_append, returnsPassed, returnsPassed, ih, feed_cons]
    split
    · rfl
    · rfl

/-- A carriage return that is passed over moves the run by one column, and does nothing else. -/
theorem step_return (h : Host σ) {s : Scan σ} (passes : s.passesReturns = true) :
  s.halt = none ∧ s.step h '\r' = { s with place := s.place.advance '\r' }
  := by
  obtain ⟨running, outside⟩ := Bool.and_eq_true_iff.mp passes
  rw [Option.isNone_iff_eq_none] at running
  use running
  rw [step_of_quiet h running (Lexer.step_return (by simpa using outside))]

end Scan

/-! ### Places without carriage returns -/

namespace Position

/-- The first place comes before the second. -/
def Before (p q : Position) : Prop :=
  p.line < q.line ∨ p.line = q.line ∧ p.column < q.column

theorem before_advance (p : Position) (c : Char) :
  p.Before (p.advance c)
  := by
  rw [advance]
  split
  · exact .inl (Nat.lt_succ_self _)
  · exact .inr ⟨rfl, Nat.lt_succ_self _⟩

theorem Before.trans {p q r : Position} (first : p.Before q) (second : q.Before r) :
  p.Before r
  := by
  rw [Before] at *
  omega

/-- The number of the given places that come before `p` on its line. -/
def countBefore (gone : List Position) (p : Position) : Nat :=
  gone.countP fun q => q.line = p.line ∧ q.column < p.column

/-- The second place is the first one in the text without the characters at the given places: the
line is the same, and the column is less by the number of those that come before it on the line. -/
def Loses (gone : List Position) (p q : Position) : Prop :=
  q.line = p.line ∧ q.column + countBefore gone p = p.column

theorem countBefore_of_line_lt {gone : List Position} {p : Position}
    (h : ∀ q ∈ gone, q.line < p.line) :
  countBefore gone p = 0
  := by
  rw [countBefore, List.countP_eq_zero]
  intro q hq
  have hline := h q hq
  simp only [decide_eq_true_eq]
  omega

/-- One column further on there are as many places before, and one more if a place is added. -/
theorem countBefore_succ {gone : List Position} {p : Position} (h : ∀ q ∈ gone, q.Before p) :
  countBefore gone ⟨p.line, p.column + 1⟩ = countBefore gone p
    ∧ countBefore (gone ++ [p]) ⟨p.line, p.column + 1⟩ = countBefore gone p + 1
  := by
  have hsame : countBefore gone ⟨p.line, p.column + 1⟩ = countBefore gone p := by
    apply List.countP_congr
    intro q hq
    have hbefore := h q hq
    rw [Before] at hbefore
    simp only [decide_eq_true_eq]
    omega
  use hsame
  rw [← hsame]
  simp [countBefore]

namespace Loses

variable {gone : List Position} {p q : Position}

/-- A character that stays moves both places. -/
theorem advance (loses : Loses gone p q) (h : ∀ r ∈ gone, r.Before p) (c : Char) :
  Loses gone (p.advance c) (q.advance c)
  := by
  obtain ⟨hline, hcolumn⟩ := loses
  rw [Position.advance, Position.advance]
  split
  · have hnone : countBefore gone ⟨p.line + 1, 1⟩ = 0 := by
      apply countBefore_of_line_lt
      intro r hr
      have hbefore := h r hr
      rw [Before] at hbefore
      simp only
      omega
    exact ⟨congrArg (· + 1) hline, congrArg (1 + ·) hnone⟩
  · use hline
    rw [(countBefore_succ h).1, ← hcolumn, Nat.add_right_comm]

/-- A carriage return that is left out moves the first place alone. -/
theorem pass (loses : Loses gone p q) (h : ∀ r ∈ gone, r.Before p) :
  Loses (gone ++ [p]) (p.advance '\r') q
  := by
  obtain ⟨hline, hcolumn⟩ := loses
  have hadvance : p.advance '\r' = ⟨p.line, p.column + 1⟩ := rfl
  use hline
  rw [hadvance, (countBefore_succ h).2, ← Nat.add_assoc, hcolumn]

end Loses

end Position

/-! ### Runs that end alike -/

/-- Two runs end alike: with the same outcome, or both fail for the same reason, at places that `R`
relates. -/
def EndAlike (R : Position → Position → Prop) :
    Except ScriptError Outcome → Except ScriptError Outcome → Prop
  | .ok first, .ok second => first = second
  | .error first, .error second => first.cause = second.cause ∧ R first.place second.place
  | _, _ => False

/-- Runs that mirror each other end alike. -/
theorem Scan.Mirrors.endAlike {R : Position → Position → Prop} {earlier : List Interaction}
    {s t : Scan σ} (mirrors : Mirrors R earlier s t) :
  EndAlike R s.result t.result
  := by
  have hassembling : s.machine.assembling = t.machine.assembling := by
    rw [Machine.assembling, mirrors.machine.pending, Machine.assembling]
  have hhalt := mirrors.halt
  have hplace := mirrors.place
  rw [Scan.result, Scan.result, mirrors.lexer, hassembling]
  generalize s.halt = a at hhalt ⊢
  generalize t.halt = b at hhalt ⊢
  cases hhalt with
  | none =>
    cases t.lexer.finish t.machine.assembling with
    | none => rfl
    | some kind => exact ⟨rfl, hplace⟩
  | some alike =>
    cases alike with
    | aborted => rfl
    | malformed kind hplace => exact ⟨rfl, hplace⟩
    | undefined name hplace => exact ⟨rfl, hplace⟩

/-- From outside, runs that began together and mirror each other differ only in the places of their
errors. -/
theorem Scan.Mirrors.observed {R : Position → Position → Prop} {s t : Scan σ}
    (mirrors : Mirrors R [] s t) :
  t.interactions = s.interactions ∧ t.state = s.state ∧ EndAlike R s.result t.result
  := by
  have hinteractions := mirrors.interactions
  rw [List.nil_append] at hinteractions
  exact ⟨hinteractions.symm, mirrors.machine.state.symm, mirrors.endAlike⟩

/-! ### Side by side with the text without carriage returns -/

namespace Scan

/-- Of runs that mirror each other both go on, if one does. -/
theorem Mirrors.running {R : Position → Position → Prop} {earlier : List Interaction}
    {s t : Scan σ} (mirrors : Mirrors R earlier s t) (running : s.halt = none) :
  t.halt = none
  := by
  rcases mirrors.halt_cases with ⟨-, running'⟩ | ⟨stopped, -⟩
  · apply running'
  · rw [running] at stopped
    cases stopped

/-- As long as a run goes on, it mirrors another one from any place that is related to the place of
the other one. -/
theorem Mirrors.move {R R' : Position → Position → Prop} {earlier : List Interaction}
    {s t : Scan σ} (mirrors : Mirrors R earlier s t) (running : s.halt = none) {place : Position}
    (hplace : R' place t.place) :
  Mirrors R' earlier { s with place } t
  := by
  refine ⟨mirrors.lexer, mirrors.machine, hplace, mirrors.interactions, ?_⟩
  rw [running, mirrors.running running]
  exact .none

/-- The run `t` is the run `s` without the carriage returns at the given places. -/
structure Thins (gone : List Position) (s t : Scan σ) : Prop where
  mirrors : Mirrors (Position.Loses gone) [] s t
  before : s.halt = none → ∀ p ∈ gone, p.Before s.place

namespace Thins

variable {gone : List Position} {s t : Scan σ}

/-- Both runs read a character that stays. -/
theorem step (h : Host σ) (thins : Thins gone s t) (c : Char) :
  Thins gone (s.step h c) (t.step h c)
  := by
  rcases thins.mirrors.halt_cases with ⟨hs, ht⟩ | ⟨hs, ht⟩
  · have before := thins.before hs
    constructor
    · apply thins.mirrors.step h (thins.mirrors.place.advance before c)
    · intro running p hp
      rw [place_step h running]
      apply (before p hp).trans (s.place.before_advance c)
  · rw [step_of_halt h hs, step_of_halt h ht]
    apply thins

/-- The first run passes a carriage return over, and the second one stands still. -/
theorem pass (h : Host σ) (thins : Thins gone s t) (passes : s.passesReturns = true) :
  Thins (gone ++ [s.place]) (s.step h '\r') t
  := by
  obtain ⟨running, hstep⟩ := step_return h passes
  have before := thins.before running
  rw [hstep]
  constructor
  · apply thins.mirrors.move running (thins.mirrors.place.pass before)
  · intro _ p hp
    rcases List.mem_append.mp hp with hp | hp
    · apply (before p hp).trans (s.place.before_advance '\r')
    · rw [List.mem_singleton.mp hp]
      apply s.place.before_advance

end Thins

end Scan

namespace Host

/-- The script without the carriage returns that its run passes over. -/
def withoutReturns (h : Host σ) (s : σ) (text : String) : String :=
  String.ofList ((Scan.start s).withoutReturns h text.toList)

/-- The places of the carriage returns that the run of a script passes over. -/
def returnsPassed (h : Host σ) (s : σ) (text : String) : List Position :=
  (Scan.start s).returnsPassed h text.toList

theorem withoutReturns_push (h : Host σ) (s : σ) (text : String) (c : Char) :
  h.withoutReturns s (text.push c) = if c = '\r' ∧ (h.scan s text).passesReturns
    then h.withoutReturns s text else (h.withoutReturns s text).push c
  := by
  rw [withoutReturns, String.toList_push, Scan.withoutReturns_concat, scan]
  split
  · rw [List.append_nil]
    rfl
  · rw [String.ofList_append, String.push_eq_append]
    rfl

theorem returnsPassed_push (h : Host σ) (s : σ) (text : String) (c : Char) :
  h.returnsPassed s (text.push c) = if c = '\r' ∧ (h.scan s text).passesReturns
    then h.returnsPassed s text ++ [(h.scan s text).place] else h.returnsPassed s text
  := by
  rw [returnsPassed, String.toList_push, Scan.returnsPassed_concat, scan]
  split
  · rfl
  · apply List.append_nil

/-- The run of a script and the run of the script without the carriage returns go side by side. -/
theorem thins_scan (h : Host σ) (s : σ) (text : String) :
  Scan.Thins (h.returnsPassed s text) (h.scan s text) (h.scan s (h.withoutReturns s text))
  := by
  induction text using String.push_induction with
  | empty => exact ⟨⟨rfl, ⟨rfl, rfl, rfl⟩, ⟨rfl, rfl⟩, rfl, .none⟩, fun _ p hp => nomatch hp⟩
  | push text c ih =>
    rw [returnsPassed_push, withoutReturns_push, scan_push]
    split
    · rename_i hpass
      obtain ⟨rfl, passes⟩ := hpass
      apply ih.pass h passes
    · rw [scan_push]
      apply ih.step h c

end Host

/-! ### Lines that end with a carriage return and a line feed -/

/-- The text with a line feed wherever it has a carriage return and a line feed. -/
def Text.lineFeeds : List Char → List Char
  | [] => []
  | c :: rest =>
    if c = '\r' ∧ rest.head? = some '\n' then lineFeeds rest else c :: lineFeeds rest

/-- The second place is the first one or, on the same line, the one before it. -/
def Position.Slips (p q : Position) : Prop :=
  q.line = p.line ∧ (q.column = p.column ∨ q.column + 1 = p.column)

namespace Scan

/-- The run `t` is where the run `s` is, or `s` stands at a line feed and one column further on. -/
def KeepsUp (s t : Scan σ) (text : List Char) : Prop :=
  s.place = t.place ∨ text.head? = some '\n' ∧ s.place = t.place.advance '\r'

/-- Runs that read the same character are at the same place after it. -/
theorem KeepsUp.advance {s t : Scan σ} {c : Char} {rest : List Char}
    (keepsUp : s.KeepsUp t (c :: rest)) :
  s.place.advance c = t.place.advance c
  := by
  rcases keepsUp with hplace | ⟨hc, hplace⟩
  · rw [hplace]
  · cases hc
    rw [hplace]
    rfl

/-- A run and the run of the text with line feeds alone go side by side, as long as no line ends
inside a literal. -/
theorem mirrors_lineFeeds (h : Host σ) {earlier : List Interaction} {s t : Scan σ}
    (mirrors : Mirrors Position.Slips earlier s t) {text : List Char}
    (keepsUp : s.halt = none → s.KeepsUp t text)
    (outside : ∀ p rest, text = p ++ '\r' :: '\n' :: rest →
      (s.feed h p).lexer.mode.isLiteral = false) :
  Mirrors Position.Slips earlier (s.feed h text) (t.feed h (Text.lineFeeds text))
  := by
  induction text generalizing s t with
  | nil => apply mirrors
  | cons c rest ih =>
    rcases mirrors.halt_cases with ⟨running, running'⟩ | ⟨stopped, stopped'⟩
    · have outside' (p rest' : List Char) (hrest : rest = p ++ '\r' :: '\n' :: rest') :
          ((s.step h c).feed h p).lexer.mode.isLiteral = false := by
        rw [← feed_cons]
        apply outside (c :: p) rest'
        rw [hrest, List.cons_append]
      rw [Text.lineFeeds, feed_cons]
      split
      · rename_i hline
        obtain ⟨rfl, hhead⟩ := hline
        obtain ⟨rest', rfl⟩ := List.head?_eq_some_iff.mp hhead
        have passes : s.passesReturns = true := by
          have hmode := outside [] rest' rfl
          rw [feed_nil] at hmode
          rw [passesReturns, running, hmode]
          rfl
        -- The second run stands still, and the first one is a column further on at the line feed.
        have hplace : s.place = t.place := by
          rcases keepsUp running with hplace | ⟨hfeed, -⟩
          · apply hplace
          · cases hfeed
        rw [(step_return h passes).2] at outside' ⊢
        apply ih _ _ outside'
        · apply mirrors.move running
          rw [hplace]
          exact ⟨rfl, .inr rfl⟩
        · intro _
          right
          use rfl
          rw [hplace]
      · have hadvance := (keepsUp running).advance
        have mirrors' : Mirrors Position.Slips earlier (s.step h c) (t.step h c) := by
          apply mirrors.step h
          rw [hadvance]
          exact ⟨rfl, .inl rfl⟩
        rw [feed_cons]
        apply ih mirrors' _ outside'
        intro hgoes
        left
        rw [place_step h hgoes, hadvance, place_step h (mirrors'.running hgoes)]
    · rw [feed_of_halt h stopped, feed_of_halt h stopped']
      apply mirrors

end Scan

/-! ### Scripts without carriage returns -/

/-- Carriage returns outside literals are invisible. When a script is scanned without those that its
run passes over, the same passes between run and host, the host is left in the same state, and the
outcome is the same. An error has the same kind or name and is on the same line, and its column is
less by the number of carriage returns that were passed over before it on that line. So a script
whose lines end with a carriage return and a line feed, none of them inside a literal, acts as the
script with line feeds alone; an error is at the same place, or one column before it. -/
theorem Host.scan_withoutReturns (h : Host σ) (s : σ) (text : String) :
  ((h.scan s (h.withoutReturns s text)).interactions = (h.scan s text).interactions
      ∧ (h.scan s (h.withoutReturns s text)).state = (h.scan s text).state
      ∧ EndAlike (Position.Loses (h.returnsPassed s text)) (h.scan s text).result
        (h.scan s (h.withoutReturns s text)).result)
    ∧ ((∀ p t, text = p ++ "\r\n" ++ t → (h.scan s p).lexer.mode.isLiteral = false) →
      let unix := String.ofList (Text.lineFeeds text.toList)
      (h.scan s unix).interactions = (h.scan s text).interactions
        ∧ (h.scan s unix).state = (h.scan s text).state
        ∧ EndAlike Position.Slips (h.scan s text).result (h.scan s unix).result)
  := by
  constructor
  · apply (thins_scan h s text).mirrors.observed
  · intro outside unix
    have mirrors : Scan.Mirrors Position.Slips [] (h.scan s text) (h.scan s unix) := by
      rw [scan, scan, String.toList_ofList]
      apply Scan.mirrors_lineFeeds h
      · exact ⟨rfl, ⟨rfl, rfl, rfl⟩, ⟨rfl, .inl rfl⟩, rfl, .none⟩
      · exact fun _ => .inl rfl
      · intro p rest hrest
        have houtside := outside (String.ofList p) (String.ofList rest) (by
          apply String.toList_inj.mp
          simp [hrest])
        rw [scan, String.toList_ofList] at houtside
        apply houtside
    apply mirrors.observed

/-- The carriage return in the literal stays. The variable without a value is found at the line feed
of the second line, behind a carriage return or not. -/
theorem Host.scan_withoutReturns_lines :
  let h := Host.fixed none { result := .null }
  let text := "a '\r'\r;\r\nb $x\r\n"
  let unix := "a '\r'\r;\nb $x\n"
  (h.withoutReturns () text = "a '\r';\nb $x\n"
      ∧ h.returnsPassed () text = [⟨1, 6⟩, ⟨1, 8⟩, ⟨2, 5⟩])
    ∧ (h.scan () text).halt = some (.failed (.undefined "x" ⟨2, 6⟩))
    ∧ (∀ p t, text = p ++ "\r\n" ++ t → (h.scan () p).lexer.mode.isLiteral = false)
    ∧ String.ofList (Text.lineFeeds text.toList) = unix
    ∧ EndAlike Position.Slips (h.scan () text).result (h.scan () unix).result
  := by
  intro h text unix
  have hwithout : h.withoutReturns () text = "a '\r';\nb $x\n" := by decide +kernel
  have hpassed : h.returnsPassed () text = [⟨1, 6⟩, ⟨1, 8⟩, ⟨2, 5⟩] := by decide +kernel
  have hhalt : (h.scan () text).halt = some (.failed (.undefined "x" ⟨2, 6⟩)) := by decide +kernel
  have hunix : String.ofList (Text.lineFeeds text.toList) = unix := by decide +kernel
  have outside : ∀ p t, text = p ++ "\r\n" ++ t →
      (h.scan () p).lexer.mode.isLiteral = false := by
    have hparts : ∀ part ∈ text.toList.inits, part ++ ['\r', '\n'] <+: text.toList →
        ((Scan.start ()).feed h part).lexer.mode.isLiteral = false := by decide +kernel
    intro p t htext
    have hprefix : p.toList ++ ['\r', '\n'] <+: text.toList := by
      use t.toList
      rw [htext]
      simp
    apply hparts p.toList _ hprefix
    apply (List.mem_inits _ _).mpr ((List.prefix_append _ _).trans hprefix)
  have halike := ((scan_withoutReturns h () text).2 outside).2.2
  rw [hunix] at halike
  exact ⟨⟨hwithout, hpassed⟩, hhalt, outside, hunix, halike⟩

end GuardedScript
