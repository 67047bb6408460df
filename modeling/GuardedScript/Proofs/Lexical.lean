import GuardedScript.Program.Basic
import GuardedScript.Proofs.Runs

/-!
# What waits in the buffer

One buffer serves all modes of the lexer. A change of mode clears it, keeps it or takes its
characters out, and still what waits there always *fits* the mode: read freely it could be the
beginning of a word, in a variable it could be the beginning of a name, and in a comment it is
blank. So every word, every name and every instruction that leaves the lexer has the form that
its characters promise.
-/

universe u

namespace GuardedScript

variable {σ : Type u}

/-! ### Words -/

namespace Text

/-- Characters that may wait while the lexer reads freely: none is reserved or breaks a line, and
no two spaces stand side by side. -/
structure Loose (text : List Char) : Prop where
  chars : ∀ c ∈ text, c ∉ Component.reserved ∧ c ≠ '\n' ∧ c ≠ '\r'
  spaces : ¬ [' ', ' '] <:+: text

/-- The characters of a bare word. There are some, there is no blank at either end, and they may
have waited while the lexer read freely. -/
structure IsWord (text : List Char) : Prop extends Loose text where
  ne_nil : text ≠ []
  first : ∀ c, text.head? = some c → isBlank c = false
  last : ∀ c, text.getLast? = some c → isBlank c = false

namespace Loose

theorem nil :
  Loose []
  where
  chars := by simp
  spaces := by simp

/-- A part of loose characters is loose. -/
theorem of_infix {part text : List Char} (loose : Loose text) (h : part <:+: text) :
  Loose part
  where
  chars c hc := loose.chars c (h.subset hc)
  spaces hspaces := loose.spaces (hspaces.trans h)

/-- One more character may wait, unless it would be a second space. -/
theorem concat {text : List Char} (loose : Loose text) {c : Char}
    (hc : c ∉ Component.reserved ∧ c ≠ '\n' ∧ c ≠ '\r')
    (hspace : c = ' ' → text.getLast? ≠ some ' ') :
  Loose (text ++ [c])
  where
  chars d hd := by
    rcases List.mem_append.mp hd with hd | hd
    · apply loose.chars d hd
    · rw [List.mem_singleton.mp hd]
      apply hc
  spaces hspaces := by
    rcases List.infix_concat_iff.mp hspaces with hsuffix | hinfix
    · rcases List.suffix_concat_iff.mp hsuffix with hnil | ⟨front, hfront, hfront'⟩
      · cases hnil
      · obtain ⟨rfl, rfl⟩ : front = [' '] ∧ c = ' ' := by
          have hsplit : [' '] ++ [' '] = front ++ [c] := hfront
          obtain ⟨hleft, hright⟩ := List.append_inj' hsplit rfl
          exact ⟨hleft.symm, (List.cons.inj hright).1.symm⟩
        obtain ⟨rest, rfl⟩ := hfront'
        apply hspace rfl
        apply List.getLast?_concat
    · apply loose.spaces hinfix

end Loose

end Text

/-- The word in a buffer of loose characters is a bare word. -/
theorem Buffer.isWord_of_word? {b : Buffer} (loose : Text.Loose b.toList) {word : String}
    (h : b.word? = some word) :
  Text.IsWord word.toList
  := by
  obtain ⟨htrim, hne⟩ := toList_of_word? h
  constructor
  · rw [htrim]
    apply loose.of_infix (Text.trim_infix _)
  · apply hne
  · intro c hc
    rw [htrim] at hc
    apply Text.isBlank_of_head?_trim hc
  · intro c hc
    rw [htrim] at hc
    apply Text.isBlank_of_getLast?_trim hc

/-! ### Lexer and tokens -/

/-- The text of the token has the form of a word, or of a name. -/
def Token.Fits : Token → Prop
  | word text => Text.IsWord text.toList
  | reference name => ∀ c ∈ name.toList, c ∉ Component.closing
  | _ => True

namespace Lexer

/-- What waits in the buffer fits the mode. In a literal anything does. -/
def Fits (l : Lexer) : Prop :=
  match l.mode with
  | .free => Text.Loose l.buffer.toList
  | .comment => ∀ c ∈ l.buffer.toList, Text.isBlank c = true
  | .literal _ _ => True
  | .variable => ∀ c ∈ l.buffer.toList, c ∉ Component.closing

theorem fits_start :
  start.Fits
  := Text.Loose.nil

/-- The word that waits in a buffer of loose characters fits. -/
theorem fits_of_mem_wordToken {b : Buffer} (loose : Text.Loose b.toList) {t : Token}
    (h : t ∈ wordToken b) :
  t.Fits
  := by
  obtain ⟨word, hword, rfl⟩ := List.mem_map.mp h
  apply Buffer.isWord_of_word? loose (Option.mem_toList.mp hword)

theorem fits_stepFree {b : Buffer} (loose : Text.Loose b.toList) {c : Char} (hreturn : c ≠ '\r')
    {next : Lexer} {tokens : List Token} (h : stepFree b c = .ok (next, tokens)) :
  next.Fits ∧ ∀ t ∈ tokens, t.Fits
  := by
  -- Only a line feed, as a space, and a character without a meaning are added to the buffer. All
  -- others clear it or carry it over into another mode.
  rw [stepFree.eq_def] at h
  split at h
  · cases h
    use fits_start
    intro t ht
    rcases List.mem_append.mp ht with ht | ht
    · apply fits_of_mem_wordToken loose ht
    · rw [List.mem_singleton.mp ht]
      trivial
  · split at h
    · cases h
      exact ⟨loose, by simp⟩
    · cases h
      exact ⟨fits_start, fun t ht => fits_of_mem_wordToken loose ht⟩
  · cases h
    constructor
    · split
      · apply loose
      · rename_i hends
        have hpush : Text.Loose (b.toList ++ [' ']) := by
          apply loose.concat (by decide)
          intro _ hlast
          apply hends (Buffer.endsWithSpace_iff.mpr hlast)
        rw [← Buffer.toList_push] at hpush
        apply hpush
    · simp
  · split at h
    · rename_i hblank
      cases h
      exact ⟨Buffer.isBlank_iff.mp hblank, by simp [Token.Fits]⟩
    · cases h
  · cases h
    exact ⟨fits_start, by simp [Token.Fits]⟩
  · cases h
    exact ⟨fits_start, by simp [Token.Fits]⟩
  · cases h
    exact ⟨trivial, by simp⟩
  · cases h
    exact ⟨trivial, by simp⟩
  · split at h
    · rename_i hempty
      cases h
      have hnil : b.toList = [] := Buffer.isEmpty_iff.mp hempty
      exact ⟨by simp [Fits, hnil], by simp⟩
    · cases h
  · cases h
    have hpush : Text.Loose (b.push c).toList := by
      rw [Buffer.toList_push]
      apply loose.concat
      · simp_all [Component.reserved]
      · intro hspace
        contradiction
    exact ⟨hpush, by simp⟩

theorem fits_stepLiteral (quote : Quote) (escaped : Bool) (b : Buffer) (c : Char) :
  (stepLiteral quote escaped b c).1.Fits ∧ ∀ t ∈ (stepLiteral quote escaped b c).2, t.Fits
  := by
  rw [stepLiteral]
  split
  · exact ⟨trivial, by simp⟩
  · split
    · exact ⟨trivial, by simp⟩
    · split
      · exact ⟨fits_start, by simp [Token.Fits]⟩
      · exact ⟨trivial, by simp⟩

theorem fits_stepVariable {b : Buffer} (name : ∀ c ∈ b.toList, c ∉ Component.closing) {c : Char}
    (hreturn : c ≠ '\r') :
  (stepVariable b c).1.Fits ∧ ∀ t ∈ (stepVariable b c).2, t.Fits
  := by
  have hreference : (Token.reference b.text).Fits := by
    rw [Token.Fits, Buffer.text, String.toList_ofList]
    apply name
  rw [stepVariable.eq_def]
  split
  · exact ⟨fits_start, by simpa using hreference⟩
  · exact ⟨fits_start, by simpa using hreference⟩
  · exact ⟨fits_start, by simpa using ⟨hreference, trivial⟩⟩
  · constructor
    · intro d hd
      rw [Buffer.toList_push] at hd
      rcases List.mem_append.mp hd with hd | hd
      · apply name d hd
      · rw [List.mem_singleton.mp hd]
        simp_all [Component.closing]
    · simp

/-- A character keeps what waits in the buffer fitting, and the tokens that it completes fit. -/
theorem fits_step {l : Lexer} (fits : l.Fits) {c : Char} {next : Lexer} {tokens : List Token}
    (h : l.step c = .ok (next, tokens)) :
  next.Fits ∧ ∀ t ∈ tokens, t.Fits
  := by
  rw [step.eq_def] at h
  split at h
  · rename_i quote escaped hmode
    have hfits := fits_stepLiteral quote escaped l.buffer c
    rw [Except.ok.inj h] at hfits
    apply hfits
  · rename_i hmode
    split at h
    · cases h
      exact ⟨fits, by simp⟩
    · rename_i hreturn
      rw [Fits, hmode] at fits
      apply fits_stepFree fits hreturn h
  · rename_i hmode
    split at h
    · cases h
      exact ⟨fits, by simp⟩
    · cases h
      rw [Fits, hmode] at fits
      rw [stepComment]
      split
      · exact ⟨fits_start, by simp⟩
      · exact ⟨fits, by simp⟩
  · rename_i hmode
    split at h
    · cases h
      exact ⟨fits, by simp⟩
    · rename_i hreturn
      rw [Fits, hmode] at fits
      have hfits := fits_stepVariable fits hreturn
      rw [Except.ok.inj h] at hfits
      apply hfits

theorem mode_stepLiteral (quote : Quote) (escaped : Bool) (b : Buffer) (c : Char) :
  (stepLiteral quote escaped b c).1.mode ≠ .comment
  := by
  rw [stepLiteral]
  grind [start]

theorem mode_stepVariable (b : Buffer) (c : Char) :
  (stepVariable b c).1.mode ≠ .comment
  := by
  rw [stepVariable.eq_def]
  grind [start]

theorem tokens_of_stepFree {b : Buffer} {c : Char} {next : Lexer} {tokens : List Token}
    (h : stepFree b c = .ok (next, tokens)) (hmode : next.mode = .comment) :
  tokens = [.comment]
  := by
  rw [stepFree.eq_def] at h
  grind [start, beginLiteral]

/-- In a comment the lexer stays until the line ends, and it gets there by the beginning of a
comment alone. -/
theorem tokens_of_mode_comment {l next : Lexer} {c : Char} {tokens : List Token}
    (h : l.step c = .ok (next, tokens)) (hmode : next.mode = .comment) :
  tokens = [.comment] ∨ l.mode = .comment ∧ tokens = []
  := by
  rw [step.eq_def] at h
  split at h
  · rename_i quote escaped hliteral
    have hnext := mode_stepLiteral quote escaped l.buffer c
    rw [Except.ok.inj h] at hnext
    contradiction
  · rename_i hfree
    split at h
    · cases h
      rw [hfree] at hmode
      cases hmode
    · apply Or.inl (tokens_of_stepFree h hmode)
  · rename_i hcomment
    split at h
    · cases h
      exact .inr ⟨hcomment, rfl⟩
    · cases h
      exact .inr ⟨hcomment, rfl⟩
  · rename_i hvariable
    split at h
    · cases h
      rw [hvariable] at hmode
      cases hmode
    · have hnext := mode_stepVariable l.buffer c
      rw [Except.ok.inj h] at hnext
      contradiction

end Lexer

/-! ### Events -/

/-- A word or a name that the event shows has the form of one, and an instruction that the host
executed has components. -/
def Event.Fits : Event → Prop
  | word text => Text.IsWord text.toList
  | lookup name _ => ∀ c ∈ name.toList, c ∉ Component.closing
  | dispatched (.called components _ _) => components ≠ []
  | _ => True

namespace Machine

/-- An instruction without components is not executed. -/
theorem fits_dispatch (h : Host σ) (m : Machine σ) (guard : Bool) :
  (Event.dispatched (m.dispatch h guard).1).Fits
  := by
  cases hpending : m.pending with
  | nil => simp [dispatch, Host.dispatch, hpending, Event.Fits]
  | cons v rest =>
    cases hactive : m.blocks.current.active with
    | true => simp [dispatch, Host.dispatch, hpending, hactive, Event.Fits]
    | false => simp [dispatch, Host.dispatch, hpending, hactive, Event.Fits]

/-- What a token that fits makes happen fits. -/
theorem fits_step (h : Host σ) (m : Machine σ) (place : Position) {t : Token} (fits : t.Fits) :
  ∀ e ∈ (m.step h place t).events, e.Fits
  := by
  cases t with
  | word text => simpa [step, Event.Fits, Token.Fits] using fits
  | literal text => simp [step, Event.Fits]
  | reference name =>
    rw [step]
    split
    · simpa [Event.Fits, Token.Fits] using fits
    · simpa [Event.Fits, Token.Fits] using fits
  | stop => simpa [step] using m.fits_dispatch h false
  | enter =>
    rw [step]
    split
    · simpa [Event.Fits] using m.fits_dispatch h true
    · simp [refuse]
  | leave =>
    rw [step]
    split
    · simp [Event.Fits]
    · simp [refuse]
  | comment =>
    rw [step]
    split
    · simp [refuse]
    · simp

end Machine

namespace Scan

/-- Tokens that fit add events that fit. -/
theorem fits_foldl_carryOut (h : Host σ) {tokens : List Token} (htokens : ∀ t ∈ tokens, t.Fits)
    {s : Scan σ} (hs : ∀ e ∈ s.events, e.Fits) :
  ∀ e ∈ (tokens.foldl (carryOut h) s).events, e.Fits
  := by
  induction tokens generalizing s with
  | nil => apply hs
  | cons t rest ih =>
    obtain ⟨ht, hrest⟩ := List.forall_mem_cons.mp htokens
    apply ih hrest
    by_cases running : s.halt = none
    · intro e he
      rw [carryOut_of_running h running] at he
      simp only [events, Array.toList_appendList, List.mem_append] at he
      rcases he with he | he
      · apply hs e he
      · apply s.machine.fits_step h s.place ht e he
    · rw [carryOut_of_halt h (Option.isSome_iff_ne_none.mpr running)]
      apply hs

/-- What waits and what has happened fits, and in a comment no components are waiting. -/
structure Fits (s : Scan σ) : Prop where
  lexer : s.lexer.Fits
  comment : s.lexer.mode = .comment → s.machine.pending = []
  events : ∀ e ∈ s.events, e.Fits

theorem fits_start (s : σ) :
  (start s).Fits
  where
  lexer := Lexer.fits_start
  comment hmode := by cases hmode
  events := by simp [Scan.events, start]

/-- A run that is refused fits as before. -/
theorem Fits.refuse {s : Scan σ} (fits : s.Fits) (kind : Malformation) :
  (s.refuse kind).Fits
  := ⟨fits.lexer, fits.comment, fits.events⟩

/-- No components are waiting in a comment that was not refused. -/
theorem pending_carryOut_comment (h : Host σ) {s : Scan σ} (running : s.halt = none)
    (accepted : (s.carryOut h .comment).Accepted) :
  (s.carryOut h .comment).machine.pending = []
  := by
  cases assembling : s.machine.assembling with
  | false =>
    rw [carryOut_comment h running assembling]
    apply Machine.assembling_eq_false_iff.mp assembling
  | true =>
    rw [carryOut_comment_of_assembling h running assembling] at accepted
    apply absurd rfl (accepted _ _)

/-- A character keeps a run fitting. -/
theorem fits_step (h : Host σ) (s : Scan σ) (c : Char) (fits : s.Fits) :
  (s.step h c).Fits
  := by
  by_cases running : s.halt = none
  · cases hlex : s.lexer.step c with
    | error kind =>
      rw [step_of_error h running hlex]
      apply fits.refuse
    | ok read =>
      obtain ⟨next, tokens⟩ := read
      obtain ⟨hnext, htokens⟩ := Lexer.fits_step fits.lexer hlex
      rcases step_of_ok_cases h running hlex with ⟨accepted, hstep⟩ | ⟨kind, hstep⟩
      · rw [hstep]
        constructor
        · apply hnext
        · intro hmode
          rcases Lexer.tokens_of_mode_comment hlex hmode with rfl | ⟨hbefore, rfl⟩
          · apply pending_carryOut_comment h running accepted
          · apply fits.comment hbefore
        · apply fits_foldl_carryOut h htokens fits.events
      · rw [hstep]
        apply fits.refuse
  · rw [step_of_halt h (Option.isSome_iff_ne_none.mpr running)]
    apply fits

end Scan

/-- Every run fits. -/
theorem Host.fits_scan (h : Host σ) (s : σ) (text : String) :
  (h.scan s text).Fits
  := by
  apply Scan.feed_invariant h (Scan.fits_step h) (Scan.fits_start s)

/-! ### What leaves the lexer -/

namespace Event

/-- The host is asked for a name where it is looked up. -/
theorem eq_of_interaction?_lookup {e : Event} {name : String} {value? : Option Value}
    (h : e.interaction? = some (.lookup name value?)) :
  e = .lookup name value?
  := by
  cases e with
  | lookup name value? =>
    cases h
    rfl
  | dispatched d => cases d <;> cases h
  | word text => cases h
  | literal text => cases h
  | entered block depth => cases h
  | left closed current => cases h

/-- The host executes an instruction where it is dispatched. -/
theorem eq_of_interaction?_call {e : Event} {components : List Value} {guard : Bool}
    {reply : Reply} (h : e.interaction? = some (.call components guard reply)) :
  e = .dispatched (.called components guard reply)
  := by
  cases e with
  | lookup name value? => cases h
  | dispatched d =>
    cases d with
    | blank => cases h
    | skipped components => cases h
    | called components guard reply =>
      cases h
      rfl
  | word text => cases h
  | literal text => cases h
  | entered block depth => cases h
  | left closed current => cases h

end Event

/-- What waits in the buffer always fits the mode, whatever the text and the host. In a comment
the buffer is blank and no components are waiting. In a variable the buffer holds no closing
characters. Read freely it holds no reserved characters, no line breaks and no two spaces side by
side. So every word that was read is a bare word, the host was asked for no name with a closing
character, and it never executed an instruction without components. -/
theorem Host.scan_fits_mode (h : Host σ) (s : σ) (text : String) :
  ((h.scan s text).lexer.mode = .comment →
      (∀ c ∈ (h.scan s text).lexer.buffer.toList, Text.isBlank c = true)
      ∧ (h.scan s text).machine.pending = [])
    ∧ ((h.scan s text).lexer.mode = .variable →
      ∀ c ∈ (h.scan s text).lexer.buffer.toList, c ∉ Component.closing)
    ∧ ((h.scan s text).lexer.mode = .free → Text.Loose (h.scan s text).lexer.buffer.toList)
    ∧ (∀ word, .word word ∈ (h.scan s text).events → Text.IsWord word.toList)
    ∧ (∀ name value?, .lookup name value? ∈ (h.scan s text).interactions →
      ∀ c ∈ name.toList, c ∉ Component.closing)
    ∧ ∀ components guard reply, .call components guard reply ∈ (h.scan s text).interactions →
      components ≠ []
  := by
  obtain ⟨hlexer, hcomment, hevents⟩ := fits_scan h s text
  rw [Lexer.Fits.eq_def] at hlexer
  and_intros
  · intro hmode
    rw [hmode] at hlexer
    exact ⟨hlexer, hcomment hmode⟩
  · intro hmode
    rw [hmode] at hlexer
    apply hlexer
  · intro hmode
    rw [hmode] at hlexer
    apply hlexer
  · intro word hword
    apply hevents _ hword
  · intro name value? hlookup
    obtain ⟨e, he, hei⟩ := List.mem_filterMap.mp hlookup
    rw [Event.eq_of_interaction?_lookup hei] at he
    apply hevents _ he
  · intro components guard reply hcall
    obtain ⟨e, he, hei⟩ := List.mem_filterMap.mp hcall
    rw [Event.eq_of_interaction?_call hei] at he
    apply hevents _ he

/-- A line feed before a comment waits as a space, a word over two lines holds a space, and the
carriage return at the end of a name is not a part of it. -/
theorem Host.scan_fits_mode_lines :
  let h := Host.fixed (some .null) { result := .null }
  let text := "a\r\nb $x\r;"
  ((h.scan () "\n# a").lexer.mode = .comment
      ∧ (∀ c ∈ (h.scan () "\n# a").lexer.buffer.toList, Text.isBlank c = true)
      ∧ (h.scan () "\n# a").machine.pending = [])
    ∧ ((h.scan () "a $x\r").lexer.mode = .variable
      ∧ ∀ c ∈ (h.scan () "a $x\r").lexer.buffer.toList, c ∉ Component.closing)
    ∧ ((h.scan () "a\r\nb").lexer.mode = .free
      ∧ Text.Loose (h.scan () "a\r\nb").lexer.buffer.toList)
    ∧ (Event.word "a b" ∈ (h.scan () ("a\r\nb".push ' ')).events ∧ Text.IsWord "a b".toList)
    ∧ (∃ value?, .lookup "x" value? ∈ (h.scan () text).interactions
      ∧ ∀ c ∈ "x".toList, c ∉ Component.closing)
    ∧ ∃ components guard reply, .call components guard reply ∈ (h.scan () text).interactions
      ∧ components ≠ []
  := by
  intro h text
  have hcomment : (h.scan () "\n# a").lexer.mode = .comment := by decide +kernel
  have hvariable : (h.scan () "a $x\r").lexer.mode = .variable := by decide +kernel
  have hfree : (h.scan () "a\r\nb").lexer.mode = .free := by decide +kernel
  have hword : Event.word "a b" ∈ (h.scan () ("a\r\nb".push ' ')).events := by
    have running : (h.scan () "a\r\nb").halt = none := by decide +kernel
    have hlexer : (h.scan () "a\r\nb").lexer = ⟨.free, ⟨['b', ' ', 'a']⟩⟩ := by decide +kernel
    have hlex : (h.scan () "a\r\nb").lexer.step ' ' = .ok (.start, [.word "a b"]) := by
      rw [hlexer]
      rfl
    rw [scan_push, Scan.step_of_ok h running hlex, Scan.events_goOn, List.foldl_cons,
      List.foldl_nil, Scan.carryOut_word h running]
    simp [Scan.events]
  obtain ⟨-, -, -, -, hnames, hcalls⟩ := scan_fits_mode h () text
  refine ⟨⟨hcomment, (scan_fits_mode h () "\n# a").1 hcomment⟩,
    ⟨hvariable, (scan_fits_mode h () "a $x\r").2.1 hvariable⟩,
    ⟨hfree, (scan_fits_mode h () "a\r\nb").2.2.1 hfree⟩,
    ⟨hword, (scan_fits_mode h () ("a\r\nb".push ' ')).2.2.2.1 _ hword⟩, ?_, ?_⟩
  · have hname : "x" ∈ (h.scan () text).names := by decide +kernel
    obtain ⟨i, hi, hx⟩ := List.mem_filterMap.mp hname
    cases i with
    | lookup name value? =>
      cases hx
      exact ⟨value?, hi, hnames _ _ hi⟩
    | call components guard reply => cases hx
  · have hany : (h.scan () text).interactions.any Interaction.isCall = true := by decide +kernel
    obtain ⟨i, hi, hcall⟩ := List.any_eq_true.mp hany
    cases i with
    | lookup name value? => cases hcall
    | call components guard reply => exact ⟨components, guard, reply, hi, hcalls _ _ _ hi⟩

end GuardedScript
