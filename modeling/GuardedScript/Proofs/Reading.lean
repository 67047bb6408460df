import GuardedScript.Lexer
import GuardedScript.Program.Written

/-!
# Reading written programs

What the lexer makes of the parts of a written program. Between items it is at rest: it reads
freely and its buffer is empty. A component and the character after it give the component's token,
a row of components gives their tokens in order, and from a gap it reads comments at most.
-/

namespace GuardedScript

/-- Between the blanks at its ends, a text without blanks is itself. -/
theorem Text.trim_eq_self {text : List Char} (h : ∀ c ∈ text, isBlank c = false) :
  trim text = text
  := by
  apply trim_of_ends
  · intro c hc
    apply h c (List.mem_of_head? hc)
  · intro c hc
    apply h c (List.mem_of_getLast? hc)

namespace Lexer

/-! ### Reading a text -/

/-- The lexer reads a text: the tokens that the text completes, and the lexer after it. -/
inductive Reads : Lexer → List Char → List Token → Lexer → Prop
  | nil (l : Lexer) : Reads l [] [] l
  | cons {l m n : Lexer} {c : Char} {text : List Char} {first rest : List Token}
    (hstep : l.step c = .ok (m, first)) (hrest : Reads m text rest n) :
    Reads l (c :: text) (first ++ rest) n

/-- A single character is read as a step reads it. -/
theorem Reads.single {l m : Lexer} {c : Char} {tokens : List Token}
    (h : l.step c = .ok (m, tokens)) :
  l.Reads [c] tokens m
  := by
  have reads := Reads.cons h (Reads.nil m)
  rw [List.append_nil] at reads
  apply reads

/-- A character that completes no token is read before the others. -/
theorem Reads.quiet {l m n : Lexer} {c : Char} {text : List Char} {tokens : List Token}
    (hstep : l.step c = .ok (m, [])) (hrest : m.Reads text tokens n) :
  l.Reads (c :: text) tokens n
  := Reads.cons hstep hrest

/-- Two texts are read one after the other. -/
theorem Reads.append {l m n : Lexer} {text text' : List Char} {tokens tokens' : List Token}
    (first : l.Reads text tokens m) (second : m.Reads text' tokens' n) :
  l.Reads (text ++ text') (tokens ++ tokens') n
  := by
  induction first with
  | nil l => apply second
  | cons hstep hrest ih =>
    rw [List.cons_append, List.append_assoc]
    apply Reads.cons hstep (ih second)

/-! ### Characters that wait in the buffer -/

/-- A buffer that holds a text. -/
def holding (text : List Char) : Buffer :=
  ⟨text.reverse⟩

theorem holding_concat (text : List Char) (c : Char) :
  holding (text ++ [c]) = (holding text).push c
  := by
  simp [holding, Buffer.push]

theorem toList_holding (text : List Char) :
  (holding text).toList = text
  := by
  simp [holding, Buffer.toList]

theorem text_holding (text : String) :
  (holding text.toList).text = text
  := by
  rw [Buffer.text, toList_holding, String.ofList_toList]

/-- Characters that the lexer puts into its buffer one by one wait there. -/
theorem reads_pushed {mode : Mode} (front text : List Char)
    (h : ∀ c ∈ text, ∀ b, step ⟨mode, b⟩ c = .ok (⟨mode, b.push c⟩, [])) :
  Reads ⟨mode, holding front⟩ text [] ⟨mode, holding (front ++ text)⟩
  := by
  induction text generalizing front with
  | nil =>
    rw [List.append_nil]
    apply Reads.nil
  | cons c rest ih =>
    obtain ⟨hc, hrest⟩ := List.forall_mem_cons.mp h
    have reads := ih (front ++ [c]) hrest
    rw [List.append_assoc, List.singleton_append, holding_concat] at reads
    apply Reads.quiet (hc (holding front)) reads

/-! ### Words -/

/-- A character of a word waits in the buffer. -/
theorem step_of_writable {c : Char} (hblank : Text.isBlank c = false)
    (hreserved : c ∉ Component.reserved) (b : Buffer) :
  step ⟨.free, b⟩ c = .ok (⟨.free, b.push c⟩, [])
  := by
  have hne {d : Char} (hd : Text.isBlank d = true) : c ≠ d := by
    rintro rfl
    rw [hd] at hblank
    cases hblank
  simp only [Component.reserved, List.mem_cons, List.not_mem_nil, or_false, not_or] at hreserved
  have hreturn : c ≠ '\r' := hne (by decide)
  have hspace : c ≠ ' ' := hne (by decide)
  have hline : c ≠ '\n' := hne (by decide)
  rw [step, if_neg hreturn, stepFree]
  all_goals simp_all

/-- A word that waits in the buffer is taken as it is. -/
theorem wordToken_holding {text : String} (hne : text ≠ "")
    (hblank : ∀ c ∈ text.toList, Text.isBlank c = false) :
  wordToken (holding text.toList) = [.word text]
  := by
  have htext : text.toList ≠ [] := by
    rw [ne_eq, String.toList_eq_nil_iff]
    apply hne
  have hword : (holding text.toList).word? = some text := by
    rw [Buffer.word?, toList_holding, Text.trim_eq_self hblank]
    cases hlist : text.toList with
    | nil => apply absurd hlist htext
    | cons c rest =>
      simp only
      rw [← hlist, String.ofList_toList]
  rw [wordToken, Buffer.takeWord_eq, hword]
  rfl

/-- A text without blanks does not end with a space. -/
theorem endsWithSpace_holding {text : List Char} (hblank : ∀ c ∈ text, Text.isBlank c = false) :
  (holding text).endsWithSpace = false
  := by
  rw [Bool.eq_false_iff, ne_eq, Buffer.endsWithSpace_iff, toList_holding]
  intro hlast
  have hspace := hblank ' ' (List.mem_of_getLast? hlast)
  cases hspace

/-! ### References -/

/-- A character of a name waits in the buffer. -/
theorem step_of_name {c : Char} (hclosing : c ∉ Component.closing) (b : Buffer) :
  step ⟨.variable, b⟩ c = .ok (⟨.variable, b.push c⟩, [])
  := by
  simp only [Component.closing, List.mem_cons, List.not_mem_nil, or_false, not_or] at hclosing
  rw [step, if_neg hclosing.2.2.1, stepVariable]
  all_goals simp_all

/-- A dollar sign begins a name. -/
theorem reads_name {name : String} (h : ∀ c ∈ name.toList, c ∉ Component.closing) :
  start.Reads ('$' :: name.toList) [] ⟨.variable, holding name.toList⟩
  := by
  have hname : Reads ⟨.variable, .empty⟩ name.toList [] ⟨.variable, holding name.toList⟩ :=
    reads_pushed [] name.toList (fun c hc b => step_of_name (h c hc) b)
  apply Reads.quiet rfl hname

/-! ### Literals -/

/-- A character of a literal waits in the buffer, after a backslash or when it needs none. -/
theorem step_of_not_special {quote : Quote} {c : Char} (h : quote.isSpecial c = false)
    (b : Buffer) :
  step ⟨.literal quote false, b⟩ c = .ok (⟨.literal quote false, b.push c⟩, [])
  := by
  simp only [Quote.isSpecial, Bool.or_eq_false_iff, decide_eq_false_iff_not] at h
  simp [step, stepLiteral, h]

/-- The inside of a literal waits in the buffer, without the backslashes that it was written
with. -/
theorem reads_escapes {quote : Quote} {text written : List Char}
    (escapes : quote.Escapes text written) (front : List Char) :
  Reads ⟨.literal quote false, holding front⟩ written []
    ⟨.literal quote false, holding (front ++ text)⟩
  := by
  induction escapes generalizing front with
  | nil =>
    rw [List.append_nil]
    apply Reads.nil
  | @plain c text written plain _ ih =>
    have reads := ih (front ++ [c])
    rw [List.append_assoc, List.singleton_append, holding_concat] at reads
    apply Reads.quiet (step_of_not_special plain _) reads
  | @escaped c text written _ ih =>
    have reads := ih (front ++ [c])
    rw [List.append_assoc, List.singleton_append, holding_concat] at reads
    apply Reads.quiet rfl
    apply Reads.quiet rfl reads

/-- A quote begins a literal. -/
theorem step_quote (quote : Quote) (b : Buffer) :
  step ⟨.free, b⟩ quote.char = .ok (beginLiteral b quote, [])
  := by
  cases quote with
  | double => rfl
  | single => rfl

/-- The quote that began a literal ends it. -/
theorem step_end_literal (quote : Quote) (b : Buffer) :
  step ⟨.literal quote false, b⟩ quote.char = .ok (start, [.literal b.text])
  := by
  cases quote with
  | double => rfl
  | single => rfl

end Lexer

/-- What a literal takes over from the buffer when it begins: a word directly before it, but no
blanks. -/
def Buffer.carried (b : Buffer) : String :=
  if b.isBlank then "" else b.text

namespace Lexer

/-- A literal begins with what it takes over. -/
theorem beginLiteral_eq (b : Buffer) (quote : Quote) :
  beginLiteral b quote = ⟨.literal quote false, holding b.carried.toList⟩
  := by
  rw [beginLiteral, Buffer.carried]
  split
  · rfl
  · have hb : holding b.text.toList = b := by
      apply Buffer.ext_toList
      rw [toList_holding, Buffer.text, String.toList_ofList]
    rw [hb]

/-- A text that is written between quotes is a literal, with what it takes over. -/
theorem reads_literal {quote : Quote} {text written : List Char}
    (escapes : quote.Escapes text written) (b : Buffer) :
  Reads ⟨.free, b⟩ (quote.char :: (written ++ [quote.char]))
    [.literal (b.carried ++ String.ofList text)] start
  := by
  have inside := reads_escapes escapes b.carried.toList
  have close := Reads.single (step_end_literal quote (holding (b.carried.toList ++ text)))
  rw [Buffer.text, toList_holding, String.ofList_append, String.ofList_toList] at close
  have begins := step_quote quote b
  rw [beginLiteral_eq] at begins
  apply Reads.quiet begins (inside.append close)

/-- A text between quotes is a literal. -/
theorem reads_enclose (quote : Quote) (text : String) :
  start.Reads (quote.enclose text.toList) [.literal text] start
  := by
  have reads := reads_literal (quote.escapes_escape text.toList) .empty
  have hnone : Buffer.empty.carried = "" := rfl
  rw [hnone, String.empty_append, String.ofList_toList] at reads
  apply reads

/-! ### Components -/

/-- Spaces are not read. -/
theorem reads_spaces (count : Nat) :
  start.Reads (spaces count) [] start
  := by
  induction count with
  | zero => apply Reads.nil
  | succ count ih => apply Reads.quiet rfl ih

/-- Where one space is read, more are. -/
theorem Reads.spaces {text : List Char} {tokens : List Token}
    (h : start.Reads (text ++ [' ']) tokens start) (count : Nat) :
  start.Reads (text ++ GuardedScript.spaces (count + 1)) tokens start
  := by
  have reads := h.append (reads_spaces count)
  rw [List.append_assoc, List.append_nil] at reads
  apply reads

end Lexer

/-- The token of a component. -/
def Component.token : Component → Token
  | word text => .word text
  | literal _ text => .literal text
  | reference name => .reference name

namespace Lexer

/-- A component gives its token when a space or the end of the instruction comes after it. -/
theorem reads_component {c : Component} (writable : c.Writable) :
  start.Reads (c.write ++ [' ']) [c.token] start
    ∧ start.Reads (c.write ++ [';']) [c.token, .stop] start
  := by
  cases c with
  | word text =>
    obtain ⟨hne, hchars⟩ := writable
    have hblank c (hc : c ∈ text.toList) : Text.isBlank c = false := (hchars c hc).1
    have hword : start.Reads text.toList [] ⟨.free, holding text.toList⟩ :=
      reads_pushed [] text.toList
        (fun c hc b => step_of_writable (hchars c hc).1 (hchars c hc).2 b)
    have hspace : step ⟨.free, holding text.toList⟩ ' ' = .ok (start, [.word text]) := by
      simp [step, stepFree, endsWithSpace_holding hblank, wordToken_holding hne hblank, start]
    have hstop : step ⟨.free, holding text.toList⟩ ';' = .ok (start, [.word text, .stop]) := by
      simp [step, stepFree, wordToken_holding hne hblank, start]
    exact ⟨hword.append (Reads.single hspace), hword.append (Reads.single hstop)⟩
  | literal quote text =>
    have hliteral := reads_enclose quote text
    exact ⟨hliteral.append (reads_spaces 1), hliteral.append (Reads.single rfl)⟩
  | reference name =>
    have hname := reads_name writable
    have hspace : step ⟨.variable, holding name.toList⟩ ' ' = .ok (start, [.reference name]) := by
      simp [step, stepVariable, text_holding, start]
    have hstop : step ⟨.variable, holding name.toList⟩ ';'
        = .ok (start, [.reference name, .stop]) := by
      simp [step, stepVariable, text_holding, start]
    exact ⟨hname.append (Reads.single hspace), hname.append (Reads.single hstop)⟩

/-- A row of components gives their tokens when a space or the end of the instruction comes after
it. -/
theorem reads_row {components : List Component} {row : List Char} (hrow : Row components row)
    (writable : ∀ c ∈ components, c.Writable) :
  start.Reads (row ++ [' ']) (components.map Component.token) start
    ∧ start.Reads (row ++ [';']) (components.map Component.token ++ [.stop]) start
  := by
  induction hrow with
  | one c => apply reads_component (writable c (List.mem_singleton_self c))
  | @cons c count rest text hrest ih =>
    obtain ⟨hc, hcs⟩ := List.forall_mem_cons.mp writable
    obtain ⟨hspace, hstop⟩ := ih hcs
    have hfirst := (reads_component hc).1.spaces count
    rw [List.append_assoc _ text, List.append_assoc _ text]
    exact ⟨hfirst.append hspace, hfirst.append hstop⟩

/-- An instruction gives the tokens of its components and its end. -/
theorem reads_instruction {components : List Component} {row : List Char}
    (hrow : Row components row) (writable : ∀ c ∈ components, c.Writable) (count : Nat) :
  start.Reads (row ++ spaces count ++ [';']) (components.map Component.token ++ [.stop]) start
  := by
  obtain ⟨hspace, hstop⟩ := reads_row hrow writable
  cases count with
  | zero =>
    rw [spaces, List.replicate_zero, List.append_nil]
    apply hstop
  | succ count => apply (hspace.spaces count).append (Reads.single rfl)

/-- A guard gives the tokens of its components and the beginning of its block. -/
theorem reads_guard {components : List Component} {row : List Char}
    (hrow : Row components row) (writable : ∀ c ∈ components, c.Writable) (count : Nat) :
  start.Reads (row ++ spaces (count + 1) ++ ['\x7b'])
    (components.map Component.token ++ [.enter]) start
  := by
  obtain ⟨hspace, -⟩ := reads_row hrow writable
  apply (hspace.spaces count).append (Reads.single rfl)

/-! ### Gaps -/

/-- The text of a comment is not read. -/
theorem reads_comment {text : List Char} (h : '\n' ∉ text) :
  Reads ⟨.comment, .empty⟩ (text ++ ['\n']) [] start
  := by
  induction text with
  | nil => apply Reads.single rfl
  | cons c rest ih =>
    obtain ⟨hc, hrest⟩ := not_or.mp (mt List.mem_cons.mpr h)
    have hstep : step ⟨.comment, .empty⟩ c = .ok (⟨.comment, .empty⟩, []) := by
      by_cases hreturn : c = '\r'
      · simp [step, hreturn]
      · simp [step, stepComment, hreturn, Ne.symm hc]
    apply Reads.quiet hstep (ih hrest)

/-- A gap gives comments and no other tokens. -/
theorem reads_gap {gap : List Char} (h : Gap gap) :
  ∃ count, start.Reads gap (List.replicate count .comment) start
  := by
  induction h with
  | nil => exact ⟨0, Reads.nil start⟩
  | space _ ih =>
    obtain ⟨count, reads⟩ := ih
    exact ⟨count, Reads.quiet rfl reads⟩
  | @comment text gap hline _ ih =>
    obtain ⟨count, reads⟩ := ih
    have hcomment := (reads_comment hline).append reads
    rw [List.append_assoc] at hcomment
    have hbegin : start.step '#' = .ok (⟨.comment, .empty⟩, [.comment]) := rfl
    exact ⟨count + 1, Reads.cons hbegin hcomment⟩

end Lexer

end GuardedScript
