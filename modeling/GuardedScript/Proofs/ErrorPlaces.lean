import GuardedScript.Proofs.Streaming

/-!
# Where runs fail

A run fails at a character that it reads or behind the last one, and the place in its error is
that place. A text that is malformed where it is read is refused at its *culprit*, the character
that must not stand there. A variable without a value is found at the character that ends its
name, and the name stands between a dollar sign and that character; only carriage returns are
left out of it.
-/

universe u

namespace GuardedScript

variable {σ : Type u}

/-! ### Culprits -/

/-- The character that must not stand where a text is malformed in this way. Where a text ends too
early there is none. -/
def Malformation.culprit? : Malformation → Option Char
  | commentInInstruction => some '#'
  | blockWithoutGuard => some '\x7b'
  | closeWithoutBlock => some '\x7d'
  | variableInWord => some '$'
  | unterminatedLiteral => none
  | unterminatedInstruction => none

/-- What is wrong only where a text ends has no culprit. -/
theorem Malformation.culprit?_of_isFinal {kind : Malformation} (h : kind.isFinal = false) :
  kind.culprit? = none
  := by
  cases kind with
  | commentInInstruction => cases h
  | blockWithoutGuard => cases h
  | closeWithoutBlock => cases h
  | variableInWord => cases h
  | unterminatedLiteral => rfl
  | unterminatedInstruction => rfl

/-- A token at which a run fails is a mark that must not stand there, or the name of a variable
without a value. -/
theorem Machine.failed_cases (h : Host σ) (m : Machine σ) (place : Position) (t : Token)
    {error : ScriptError} (failed : (m.step h place t).halt = some (.failed error)) :
  (∃ kind c, error = .malformed kind place ∧ t.mark? = some c ∧ kind.culprit? = some c)
    ∨ ∃ name, t = .reference name ∧ error = .undefined name place ∧ h.lookup m.state name = none
  := by
  cases t with
  | word text => cases failed
  | literal text => cases failed
  | reference name =>
    right
    rw [step] at failed
    split at failed
    · cases failed
    · rename_i missing
      cases failed
      exact ⟨name, rfl, rfl, missing⟩
  | stop =>
    simp only [step] at failed
    split at failed
    · cases failed
    · cases failed
  | enter =>
    left
    rw [step] at failed
    split at failed
    · cases failed
    · cases failed
      exact ⟨.blockWithoutGuard, '\x7b', rfl, rfl, rfl⟩
  | leave =>
    left
    rw [step] at failed
    split at failed
    · cases failed
    · cases failed
      exact ⟨.closeWithoutBlock, '\x7d', rfl, rfl, rfl⟩
  | comment =>
    left
    rw [step] at failed
    split at failed
    · cases failed
      exact ⟨.commentInInstruction, '#', rfl, rfl, rfl⟩
    · cases failed

/-! ### Names of variables -/

/-- The characters that end the name of a variable. -/
def Component.enders : List Char :=
  [' ', '\n', ';']

namespace Lexer

/-- No character that is read freely completes a reference. -/
theorem reference_not_mem_stepFree {b : Buffer} {c : Char} {next : Lexer} {tokens : List Token}
    (h : stepFree b c = .ok (next, tokens)) (name : String) :
  .reference name ∉ tokens
  := by
  have hword : .reference name ∉ wordToken b := by simp [wordToken]
  rw [stepFree.eq_def] at h
  grind

/-- A reference is the first token that a character completes, and that character ends the name
of the variable. -/
theorem reference_cases {l next : Lexer} {c : Char} {tokens : List Token}
    (h : l.step c = .ok (next, tokens)) :
  (∀ name, .reference name ∉ tokens)
    ∨ l.mode = .variable ∧ c ∈ Component.enders ∧ ∃ rest,
      tokens = .reference l.buffer.text :: rest ∧ ∀ name, .reference name ∉ rest
  := by
  rw [step.eq_def] at h
  split at h
  · rename_i quote escaped _
    left
    intro name
    have hliteral : .reference name ∉ (stepLiteral quote escaped l.buffer c).2 := by
      rw [stepLiteral]
      grind
    rw [Except.ok.inj h] at hliteral
    apply hliteral
  · split at h
    · cases h
      simp
    · exact .inl (reference_not_mem_stepFree h)
  · split at h
    · cases h
      simp
    · cases h
      simp
  · rename_i hmode
    split at h
    · cases h
      simp
    · rw [stepVariable.eq_def] at h
      split at h
      · cases h
        exact .inr ⟨hmode, by decide, [], rfl, by simp⟩
      · cases h
        exact .inr ⟨hmode, by decide, [], rfl, by simp⟩
      · cases h
        exact .inr ⟨hmode, by decide, [.stop], rfl, by simp⟩
      · cases h
        simp

/-- Only a dollar sign begins a variable, and nothing is in the buffer then. -/
theorem variable_of_stepFree {b : Buffer} {c : Char} {next : Lexer} {tokens : List Token}
    (h : stepFree b c = .ok (next, tokens)) (hmode : next.mode = .variable) :
  c = '$' ∧ next.buffer.toList = []
  := by
  rw [stepFree.eq_def] at h
  grind [Lexer.start, beginLiteral, Buffer.isEmpty_iff]

/-- The lexer reads the name of a variable behind a dollar sign, and as long as no character ends
the name. Carriage returns do not come into it. -/
theorem variable_cases {l next : Lexer} {c : Char} {tokens : List Token}
    (h : l.step c = .ok (next, tokens)) (hmode : next.mode = .variable) :
  c = '$' ∧ next.buffer.toList = []
    ∨ l.mode = .variable ∧ c ∉ Component.enders
      ∧ next.buffer.toList = l.buffer.toList ++ [c].filter (· ≠ '\r')
  := by
  rw [step.eq_def] at h
  split at h
  · rename_i quote escaped _
    have hnext : (stepLiteral quote escaped l.buffer c).1.mode ≠ .variable := by
      rw [stepLiteral]
      grind [Lexer.start]
    rw [Except.ok.inj h] at hnext
    contradiction
  · rename_i hfree
    split at h
    · cases h
      rw [hfree] at hmode
      cases hmode
    · exact .inl (variable_of_stepFree h hmode)
  · rename_i hcomment
    split at h
    · cases h
      rw [hcomment] at hmode
      cases hmode
    · cases h
      rw [stepComment] at hmode
      split at hmode
      · cases hmode
      · cases hmode
  · rename_i hvariable
    right
    use hvariable
    split at h
    · rename_i hreturn
      cases h
      subst hreturn
      simp [Component.enders]
    · rename_i hreturn
      rw [stepVariable.eq_def] at h
      split at h
      · cases h
        cases hmode
      · cases h
        cases hmode
      · cases h
        cases hmode
      · rename_i hspace hline hstop
        cases h
        simp only [Component.enders, List.mem_cons, List.not_mem_nil, or_false, not_or]
        exact ⟨⟨hspace, hline, hstop⟩, by simp [hreturn]⟩

end Lexer

namespace Scan

/-- A token at which a run fails is a mark that must not stand there, unless it is a reference. -/
theorem refused_foldl_carryOut (h : Host σ) {tokens : List Token}
    (marks : ∀ name, .reference name ∉ tokens) {s : Scan σ} (running : s.halt = none)
    {error : ScriptError}
    (failed : (tokens.foldl (carryOut h) s).halt = some (.failed error)) :
  ∃ kind c, error = .malformed kind s.place ∧ (∃ t ∈ tokens, t.mark? = some c)
    ∧ kind.culprit? = some c
  := by
  induction tokens generalizing s with
  | nil =>
    rw [List.foldl_nil, running] at failed
    cases failed
  | cons t rest ih =>
    rw [List.foldl_cons] at failed
    by_cases hhalt : (s.carryOut h t).halt = none
    · obtain ⟨kind, c, herror, ⟨t', ht', mark⟩, culprit⟩ :=
        ih (fun name hname => marks name (List.mem_cons_of_mem t hname)) hhalt failed
      rw [(lexer_carryOut h s t).2] at herror
      exact ⟨kind, c, herror, ⟨t', List.mem_cons_of_mem t ht', mark⟩, culprit⟩
    · rw [foldl_carryOut_of_halt h (Option.isSome_iff_ne_none.mpr hhalt),
        carryOut_of_running h running] at failed
      rcases s.machine.failed_cases h s.place t failed with
        ⟨kind, c, herror, mark, culprit⟩ | ⟨name, rfl, -, -⟩
      · exact ⟨kind, c, herror, ⟨t, List.mem_cons_self, mark⟩, culprit⟩
      · apply absurd List.mem_cons_self (marks name)

/-- A character at which a run fails must not stand there, or it ends the name of a variable
without a value. -/
theorem failed_step_cases (h : Host σ) {s : Scan σ} (running : s.halt = none) {c : Char}
    {error : ScriptError} (failed : (s.step h c).halt = some (.failed error)) :
  (∃ kind, error = .malformed kind s.place ∧ kind.culprit? = some c)
    ∨ s.lexer.mode = .variable ∧ c ∈ Component.enders
      ∧ error = .undefined s.lexer.buffer.text s.place
      ∧ h.lookup s.state s.lexer.buffer.text = none
  := by
  cases hlex : s.lexer.step c with
  | error kind =>
    left
    rw [step_of_error h running hlex] at failed
    cases failed
    use kind, rfl
    rcases (Lexer.error_cases hlex).2 with ⟨rfl, rfl⟩ | ⟨rfl, rfl⟩
    · rfl
    · rfl
  | ok read =>
    obtain ⟨next, tokens⟩ := read
    have culprit_of_mark {kind : Malformation} {d : Char} (mark : ∃ t ∈ tokens, t.mark? = some d)
        (culprit : kind.culprit? = some d) : kind.culprit? = some c := by
      obtain ⟨t, ht, mark⟩ := mark
      rw [culprit, (Lexer.completes_step hlex).mark_eq ht mark]
    rw [step_of_ok h running hlex, halt_goOn] at failed
    rcases Lexer.reference_cases hlex with marks | ⟨hmode, hender, rest, rfl, marks⟩
    · left
      obtain ⟨kind, d, herror, mark, culprit⟩ := refused_foldl_carryOut h marks running failed
      exact ⟨kind, herror, culprit_of_mark mark culprit⟩
    · rw [List.foldl_cons] at failed
      cases hlookup : h.lookup s.state s.lexer.buffer.text with
      | none =>
        right
        rw [carryOut_reference_of_none h running hlookup, foldl_carryOut_of_halt h rfl] at failed
        cases failed
        exact ⟨hmode, hender, rfl, rfl⟩
      | some v =>
        left
        have found : (s.carryOut h (.reference s.lexer.buffer.text)).halt = none := by
          rw [carryOut_reference h running hlookup]
          apply running
        obtain ⟨kind, d, herror, ⟨t, ht, mark⟩, culprit⟩ :=
          refused_foldl_carryOut h marks found failed
        rw [(lexer_carryOut h s _).2] at herror
        exact ⟨kind, herror, culprit_of_mark ⟨t, List.mem_cons_of_mem _ ht, mark⟩ culprit⟩

end Scan

/-! ### The character at which a run stops -/

/-- The text ends with a dollar sign and the characters behind it, none of which ends the name of
a variable. Without carriage returns they are the name. -/
def Text.EndsWithName (text name : List Char) : Prop :=
  ∃ front inner, text = front ++ '$' :: inner ∧ (∀ c ∈ inner, c ∉ Component.enders)
    ∧ name = inner.filter (· ≠ '\r')

namespace Host

/-- A run that has stopped did so at some character of its text. -/
theorem exists_stop (h : Host σ) (s : σ) {text : String} {reason : Halt}
    (stopped : (h.scan s text).halt = some reason) :
  ∃ p c t, text = p.push c ++ t ∧ (h.scan s p).halt = none
    ∧ ((h.scan s p).step h c).halt = some reason
  := by
  induction text using String.push_induction with
  | empty => cases stopped
  | push text c ih =>
    rw [scan_push] at stopped
    by_cases running : (h.scan s text).halt = none
    · use text, c, ""
      rw [String.append_empty]
      exact ⟨rfl, running, stopped⟩
    · rw [Scan.step_of_halt h (Option.isSome_iff_ne_none.mpr running)] at stopped
      obtain ⟨p, d, t, rfl, hp⟩ := ih stopped
      use p, d, t.push c
      rw [Text.append_push]
      exact ⟨rfl, hp⟩

/-- While a run reads the name of a variable, its text ends with what it has read of the name. -/
theorem endsWithName_scan (h : Host σ) (s : σ) {text : String}
    (running : (h.scan s text).halt = none) (hmode : (h.scan s text).lexer.mode = .variable) :
  Text.EndsWithName text.toList (h.scan s text).lexer.buffer.toList
  := by
  induction text using String.push_induction with
  | empty => cases hmode
  | push text c ih =>
    rw [scan_push] at running hmode ⊢
    by_cases before : (h.scan s text).halt = none
    · cases hlex : (h.scan s text).lexer.step c with
      | error kind =>
        rw [Scan.step_of_error h before hlex] at running
        cases running
      | ok read =>
        obtain ⟨next, tokens⟩ := read
        have hnext : ((h.scan s text).step h c).lexer = next := by
          rw [Scan.step_of_goesOn h before hlex running]
        rw [hnext] at hmode ⊢
        rw [String.toList_push]
        rcases Lexer.variable_cases hlex hmode with ⟨rfl, hnil⟩ | ⟨hmode', hender, hbuffer⟩
        · use text.toList, [], rfl
          exact ⟨by simp, hnil⟩
        · obtain ⟨front, inner, htext, hinner, hname⟩ := ih before hmode'
          use front, inner ++ [c]
          refine ⟨by simp [htext], ?_, ?_⟩
          · intro d hd
            rcases List.mem_append.mp hd with hd | hd
            · apply hinner d hd
            · rw [List.mem_singleton.mp hd]
              apply hender
          · rw [hbuffer, hname, List.filter_append]
    · rw [Scan.step_of_halt h (Option.isSome_iff_ne_none.mpr before)] at running
      apply absurd running before

end Host

/-! ### Errors and their places -/

/-- The error is found between two texts: its place is the place behind the first one. If a text
is malformed, then the second one begins with the culprit, or there is nothing in it when there is
no culprit. If a variable has no value, then the first one ends with its name, the second one
begins with a character that ends the name, and the host has no value for the name in the state
that the first one has left it in. -/
def ScriptError.FoundBetween (h : Host σ) (s : σ) (before after : String) (error : ScriptError) :
    Prop :=
  error.place = ⟨1 + before.toList.count '\n', 1 + (Position.lastLine before.toList).length⟩
    ∧ match error with
      | malformed kind _ => after.toList.head? = kind.culprit?
      | undefined name _ =>
        (∃ c ∈ Component.enders, after.toList.head? = some c)
          ∧ Text.EndsWithName before.toList name.toList
          ∧ h.lookup (h.scan s before).state name = none

namespace Host

/-- A run that goes on is at the place behind its text. -/
theorem place_scan (h : Host σ) (s : σ) {p : String} (running : (h.scan s p).halt = none) :
  (h.scan s p).place = ⟨1 + p.toList.count '\n', 1 + (Position.lastLine p.toList).length⟩
  := by
  rw [← Position.after_start]
  apply Scan.place_feed h running

/-- An error at the end of a text is found there. -/
theorem foundBetween_finish (h : Host σ) (s : σ) {text : String} {kind : Malformation}
    (running : (h.scan s text).halt = none)
    (hfinish : (h.scan s text).lexer.finish (h.scan s text).machine.assembling = some kind) :
  (ScriptError.malformed kind (h.scan s text).place).FoundBetween h s text ""
  := by
  use place_scan h s running
  simp only
  rw [Malformation.culprit?_of_isFinal (Lexer.isFinal_finish hfinish)]
  rfl

/-- An error at a character is found before it. -/
theorem foundBetween_step (h : Host σ) (s : σ) {p : String} {c : Char} {error : ScriptError}
    (running : (h.scan s p).halt = none)
    (failed : ((h.scan s p).step h c).halt = some (.failed error)) (t : String) :
  error.FoundBetween h s p (String.singleton c ++ t)
  := by
  have hhead : (String.singleton c ++ t).toList.head? = some c := by simp
  rcases Scan.failed_step_cases h running failed with
    ⟨kind, rfl, culprit⟩ | ⟨hmode, hender, rfl, missing⟩
  · exact ⟨place_scan h s running, hhead.trans culprit.symm⟩
  · use place_scan h s running
    refine ⟨⟨c, hender, hhead⟩, ?_, missing⟩
    rw [Buffer.text, String.toList_ofList]
    apply endsWithName_scan h s running hmode

/-- Errors point at what is wrong. A run that fails does so at a character that it reads or behind
the last one, and its error is found there, whatever the text and the host. -/
theorem scan_error_place (h : Host σ) (s : σ) (text : String) (error : ScriptError)
    (failed : (h.scan s text).result = .error error) :
  ∃ before after, text = before ++ after ∧ error.FoundBetween h s before after
  := by
  rw [Scan.result] at failed
  split at failed
  · cases failed
  · rename_i error' hhalt
    cases failed
    obtain ⟨p, c, t, rfl, running, stopped⟩ := exists_stop h s hhalt
    use p, String.singleton c ++ t
    rw [String.push_eq_append, String.append_assoc]
    exact ⟨rfl, foundBetween_step h s running stopped t⟩
  · rename_i running
    split at failed
    · rename_i kind hfinish
      cases failed
      use text, "", String.append_empty.symm
      apply foundBetween_finish h s running hfinish
    · cases failed

/-- The name is ended by a semicolon on the second line, behind a carriage return that is not a
part of it. The other text is behind its last line feed when it ends inside a literal. -/
theorem scan_error_place_lines :
  let h := Host.fixed none { result := .null }
  let missing := "a;\r\nb $x\ry;"
  let endless := "a 'b\n"
  ((h.scan () missing).result = .error (.undefined "xy" ⟨2, 7⟩)
      ∧ ∃ before after, missing = before ++ after
        ∧ (ScriptError.undefined "xy" ⟨2, 7⟩).FoundBetween h () before after)
    ∧ ((h.scan () endless).result = .error (.malformed .unterminatedLiteral ⟨2, 1⟩)
      ∧ ∃ before after, endless = before ++ after
        ∧ (ScriptError.malformed .unterminatedLiteral ⟨2, 1⟩).FoundBetween h () before after)
  := by
  intro h missing endless
  have hhalt : (h.scan () missing).halt = some (.failed (.undefined "xy" ⟨2, 7⟩)) := by
    decide +kernel
  have hmissing : (h.scan () missing).result = .error (.undefined "xy" ⟨2, 7⟩) := by
    rw [Scan.result, hhalt]
  have running : (h.scan () endless).halt = none := by decide +kernel
  have hlexer : (h.scan () endless).lexer.mode = .literal .single false := by decide +kernel
  have hplace : (h.scan () endless).place = ⟨2, 1⟩ := by decide +kernel
  have hendless : (h.scan () endless).result = .error (.malformed .unterminatedLiteral ⟨2, 1⟩) := by
    rw [Scan.result, running, Lexer.finish, hlexer, hplace]
  exact ⟨⟨hmissing, scan_error_place h () missing _ hmissing⟩,
    hendless, scan_error_place h () endless _ hendless⟩

end Host

end GuardedScript
