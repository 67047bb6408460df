import GuardedScript.Proofs.Places
import GuardedScript.Text.Spacing

/-!
# Spacing outside literals

Read freely, a space completes the word before it, and a line feed stands for a space inside it;
either has no effect behind a space in the buffer, and a carriage return never has one. So what a
run of spacing does is decided by two questions: whether there is a line feed in it, and whether
there is a space before the first one. A run and its normal form answer both alike, and one may
stand for the other: nothing changes but the places of what follows.
-/

universe u

namespace GuardedScript

variable {σ : Type u}

/-! ### Two questions about a run -/

namespace Text

/-- There is a space in the run, and no line feed before it. -/
def spaceFirst (run : List Char) : Bool :=
  (run.takeWhile (· ≠ '\n')).contains ' '

@[simp]
theorem spaceFirst_nil :
  spaceFirst [] = false
  := by
  rfl

theorem spaceFirst_cons (c : Char) (run : List Char) :
  spaceFirst (c :: run) = (decide (c ≠ '\n') && (decide (c = ' ') || spaceFirst run))
  := by
  by_cases hline : c = '\n'
  · simp [spaceFirst, hline]
  · by_cases hspace : c = ' '
    · simp [spaceFirst, hspace]
    · simp [spaceFirst, hline, hspace, Ne.symm hspace]

/-- Without a line feed, any space is a first one. -/
theorem spaceFirst_eq_contains {run : List Char} (h : run.contains '\n' = false) :
  spaceFirst run = run.contains ' '
  := by
  induction run with
  | nil => rfl
  | cons c rest ih =>
    obtain ⟨hc, hrest⟩ : c ≠ '\n' ∧ rest.contains '\n' = false := by grind
    rw [spaceFirst_cons, ih hrest]
    grind

/-- A run and its normal form both have a line feed, or neither has one. -/
theorem contains_normalSpacing (run : List Char) :
  (normalSpacing run).contains '\n' = run.contains '\n'
  := by
  rw [normalSpacing]
  grind

/-- A run and its normal form both have a space first, or neither has one. -/
theorem spaceFirst_normalSpacing (run : List Char) :
  spaceFirst (normalSpacing run) = spaceFirst run
  := by
  cases hline : run.contains '\n' with
  | true =>
    rw [normalSpacing, if_pos hline, ← spaceFirst]
    cases spaceFirst run with
    | true => rfl
    | false => rfl
  | false =>
    rw [spaceFirst_eq_contains hline, normalSpacing, hline, if_neg Bool.false_ne_true]
    cases run.contains ' ' with
    | true => rfl
    | false => rfl

end Text

namespace Lexer

/-! ### What a run does -/

/-- The tokens that a run of spacing completes: the word that waits, if the run has a space first
and does not come behind another one. -/
def spacingTokens (b : Buffer) (run : List Char) : List Token :=
  if b.endsWithSpace then []
  else if Text.spaceFirst run then wordToken b else []

/-- What waits after a run of spacing. -/
def spacingBuffer (b : Buffer) (run : List Char) : Buffer :=
  if b.endsWithSpace then b
  else
    let kept := if Text.spaceFirst run then .empty else b
    if run.contains '\n' then kept.push ' ' else kept

/-- Where no word waits, none is completed. -/
theorem spacingTokens_empty (run : List Char) :
  spacingTokens .empty run = []
  := by
  have hword : wordToken .empty = [] := rfl
  rw [spacingTokens, hword, ite_self, ite_self]

/-- Where nothing waits, a run with a line feed leaves one space. -/
theorem spacingBuffer_empty (run : List Char) :
  spacingBuffer .empty run = if run.contains '\n' then Buffer.empty.push ' ' else .empty
  := by
  have ends : ¬ Buffer.empty.endsWithSpace = true := by decide
  rw [spacingBuffer, if_neg ends, ite_self]

/-- Behind a space in the buffer no spacing has an effect. -/
theorem step_of_endsWithSpace {b : Buffer} (ends : b.endsWithSpace) {c : Char}
    (spacing : Text.isSpacing c) :
  step ⟨.free, b⟩ c = .ok (⟨.free, b⟩, [])
  := by
  simp only [Text.isSpacing, Bool.or_eq_true, decide_eq_true_eq] at spacing
  rcases spacing with (rfl | rfl) | rfl
  · simp [step, stepFree, ends]
  · simp [step, stepFree, ends]
  · simp [step]

theorem reads_of_endsWithSpace {b : Buffer} (ends : b.endsWithSpace) {run : List Char}
    (spacing : ∀ c ∈ run, Text.isSpacing c) :
  Reads ⟨.free, b⟩ run [] ⟨.free, b⟩
  := by
  induction run with
  | nil => apply Reads.nil
  | cons c rest ih =>
    obtain ⟨hc, hrest⟩ := List.forall_mem_cons.mp spacing
    apply Reads.quiet (step_of_endsWithSpace ends hc) (ih hrest)

/-- What a run of spacing does when it is read freely. -/
theorem reads_spacing (b : Buffer) {run : List Char} (spacing : ∀ c ∈ run, Text.isSpacing c) :
  Reads ⟨.free, b⟩ run (spacingTokens b run) ⟨.free, spacingBuffer b run⟩
  := by
  by_cases ends : b.endsWithSpace
  · rw [spacingTokens, spacingBuffer, if_pos ends, if_pos ends]
    apply reads_of_endsWithSpace ends spacing
  · induction run generalizing b with
    | nil =>
      have reads := Reads.nil ⟨.free, b⟩
      simpa [spacingTokens, spacingBuffer, ends] using reads
    | cons c rest ih =>
      obtain ⟨hc, hrest⟩ := List.forall_mem_cons.mp spacing
      simp only [Text.isSpacing, Bool.or_eq_true, decide_eq_true_eq] at hc
      rcases hc with (rfl | rfl) | rfl
      · -- The word is complete, and the rest of the run finds an empty buffer.
        have hstep : step ⟨.free, b⟩ ' ' = .ok (start, wordToken b) := by
          simp [step, stepFree, ends, start]
        have reads := Reads.cons hstep (ih .empty hrest (by decide))
        rw [spacingTokens_empty, spacingBuffer_empty, List.append_nil] at reads
        simpa [spacingTokens, spacingBuffer, ends, Text.spaceFirst_cons] using reads
      · -- The line feed waits as a space, behind which the rest of the run has no effect.
        have hstep : step ⟨.free, b⟩ '\n' = .ok (⟨.free, b.push ' '⟩, []) := by
          simp [step, stepFree, ends]
        have reads := Reads.quiet hstep (reads_of_endsWithSpace (b := b.push ' ') rfl hrest)
        simpa [spacingTokens, spacingBuffer, ends, Text.spaceFirst_cons] using reads
      · have hstep : step ⟨.free, b⟩ '\r' = .ok (⟨.free, b⟩, []) := by simp [step]
        have reads := Reads.quiet hstep (ih b hrest ends)
        simpa [spacingTokens, spacingBuffer, ends, Text.spaceFirst_cons] using reads

/-- A run of spacing and its normal form do the same. -/
theorem reads_normalSpacing (b : Buffer) (run : List Char) :
  Reads ⟨.free, b⟩ (Text.normalSpacing run) (spacingTokens b run) ⟨.free, spacingBuffer b run⟩
  := by
  have spacing : ∀ c ∈ Text.normalSpacing run, Text.isSpacing c := by
    intro c
    apply Text.isSpacing_of_mem_normalSpacing
  have reads := reads_spacing b spacing
  simpa only [spacingTokens, spacingBuffer, Text.spaceFirst_normalSpacing,
    Text.contains_normalSpacing] using reads

end Lexer

namespace Scan

/-- The word that a run of spacing completes does not stop the run. -/
theorem halt_spacingTokens (h : Host σ) {s : Scan σ} (running : s.halt = none) (b : Buffer)
    (run : List Char) :
  ((Lexer.spacingTokens b run).foldl (carryOut h) s).halt = none
  := by
  have hword : ((Lexer.wordToken b).foldl (carryOut h) s).halt = none := by
    rw [Lexer.wordToken, Buffer.takeWord_eq]
    cases b.word? with
    | none => apply running
    | some text =>
      have hcarry := carryOut_word h running text
      simpa [hcarry] using running
  rw [Lexer.spacingTokens]
  split
  · apply running
  · split
    · apply hword
    · apply running

/-- A run of spacing that is read freely may be put in its normal form. -/
theorem feed_normalSpacing (h : Host σ) {s : Scan σ} (free : s.lexer.mode = .free)
    {run : List Char} (spacing : ∀ c ∈ run, Text.isSpacing c) :
  (s.feed h run).AgreesUpToPlace (s.feed h (Text.normalSpacing run))
  := by
  by_cases running : s.halt = none
  · have hlexer : s.lexer = ⟨.free, s.lexer.buffer⟩ := by rw [← free]
    have hrun := Lexer.reads_spacing s.lexer.buffer spacing
    have hnormal := Lexer.reads_normalSpacing s.lexer.buffer run
    rw [← hlexer] at hrun hnormal
    obtain ⟨alike, hnext⟩ := feed_of_reads h running hrun
    obtain ⟨alike', hnext'⟩ := feed_of_reads h running hnormal
    have running' := halt_spacingTokens h running s.lexer.buffer run
    refine ⟨alike.trans alike'.symm, ?_⟩
    rw [hnext (alike.running_iff.mpr running'), hnext' (alike'.running_iff.mpr running')]
  · have stopped := Option.isSome_iff_ne_none.mpr running
    rw [feed_of_halt h stopped, feed_of_halt h stopped]
    exact ⟨.refl s, rfl⟩

end Scan

/-! ### Scripts with their spacing in normal form -/

/-- Spacing collapses. Where a script is read freely, a run of spaces, line feeds and carriage
returns leads to the same lexer and the same machine as its normal form. So wherever such a run
stands in a script, its normal form may stand there: the same passes between run and host, the
host is left in the same state, and the run has the same result. An error has the same kind or
name, and only its place may differ. -/
theorem Host.scan_normalSpacing (h : Host σ) (s : σ) (p run : String)
    (free : (h.scan s p).lexer.mode = .free) (spacing : ∀ c ∈ run.toList, Text.isSpacing c) :
  let normal := String.ofList (Text.normalSpacing run.toList)
  ((h.scan s (p ++ run)).lexer = (h.scan s (p ++ normal)).lexer
      ∧ (h.scan s (p ++ run)).machine = (h.scan s (p ++ normal)).machine)
    ∧ ∀ t, (h.scan s (p ++ run ++ t)).interactions = (h.scan s (p ++ normal ++ t)).interactions
      ∧ (h.scan s (p ++ run ++ t)).state = (h.scan s (p ++ normal ++ t)).state
      ∧ (h.scan s (p ++ run ++ t)).result.mapError ScriptError.cause
        = (h.scan s (p ++ normal ++ t)).result.mapError ScriptError.cause
  := by
  intro normal
  have agree : (h.scan s (p ++ run)).AgreesUpToPlace (h.scan s (p ++ normal)) := by
    rw [scan_append, scan_append, String.toList_ofList]
    apply Scan.feed_normalSpacing h free spacing
  refine ⟨⟨agree.lexer, agree.machine⟩, fun t => ?_⟩
  have agree' : (h.scan s (p ++ run ++ t)).AgreesUpToPlace (h.scan s (p ++ normal ++ t)) := by
    rw [scan_append h s (p ++ run), scan_append h s (p ++ normal)]
    apply agree.feed
  refine ⟨?_, congrArg Machine.state agree'.machine, agree'.result⟩
  rw [Scan.interactions, agree'.events, Scan.interactions]

/-- A word that ends before a line feed, with carriage returns and spaces around it, and the same
word with a space and a line feed behind it. The comment is refused either way, on the third line
or on the second. -/
theorem Host.scan_normalSpacing_lines :
  let h := Host.fixed none { result := .null }
  let run := "\r \r\n  \n "
  ((h.scan () "a").lexer.mode = .free ∧ ∀ c ∈ run.toList, Text.isSpacing c)
    ∧ Text.normalSpacing run.toList = [' ', '\n']
    ∧ (h.scan () ("a" ++ run)).machine = (h.scan () ("a" ++ " \n")).machine
    ∧ (h.scan () ("a" ++ run ++ "#")).result
      = .error (.malformed .commentInInstruction ⟨3, 2⟩)
    ∧ (h.scan () ("a" ++ " \n" ++ "#")).result.mapError ScriptError.cause
      = .error (.malformed .commentInInstruction)
  := by
  intro h run
  have free : (h.scan () "a").lexer.mode = .free := by decide +kernel
  have spacing : ∀ c ∈ run.toList, Text.isSpacing c :=
    List.all_eq_true.mp (by decide +kernel : run.toList.all Text.isSpacing = true)
  have hnormal : Text.normalSpacing run.toList = [' ', '\n'] := by decide +kernel
  have hhalt : (h.scan () ("a" ++ run ++ "#")).halt
      = some (.failed (.malformed .commentInInstruction ⟨3, 2⟩)) := by decide +kernel
  have hresult : (h.scan () ("a" ++ run ++ "#")).result
      = .error (.malformed .commentInInstruction ⟨3, 2⟩) := by rw [Scan.result, hhalt]
  have hsame := scan_normalSpacing h () "a" run free spacing
  have hspelled : String.ofList (Text.normalSpacing run.toList) = " \n" := by rw [hnormal]
  simp only [hspelled] at hsame
  refine ⟨⟨free, spacing⟩, hnormal, hsame.1.2, hresult, ?_⟩
  rw [← (hsame.2 "#").2.2, hresult]
  rfl

end GuardedScript
