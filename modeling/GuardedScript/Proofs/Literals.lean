import GuardedScript.Proofs.Spacing
import Mathlib.Logic.ExistsUnique

/-!
# Literals

Between quotes every text can be written, and what is read there is the text that was written.
After the opening quote the lexer is *inside* the literal: what has been read since writes the
characters that have come to the buffer since, perhaps up to a backslash that is waiting for the
next character. It leaves the literal at the first quote without a backslash, and without one the
script ends inside the literal.

A word directly before the opening quote becomes a part of the literal. So does a space in the
buffer before that word, and a line break leaves one: a literal with a word before it is one
component, but another one behind a line break than elsewhere.
-/

universe u

namespace GuardedScript

variable {σ : Type u}

namespace Lexer

/-! ### Inside a literal -/

/-- The lexer is inside a literal that took `front` over when it began, and the given characters
have been read since. -/
inductive Inside (quote : Quote) (front : List Char) : List Char → Lexer → Prop
  | plain {text written : List Char} (escapes : quote.Escapes text written) :
    Inside quote front written ⟨.literal quote false, holding (front ++ text)⟩
  | escaped {text written : List Char} (escapes : quote.Escapes text written) :
    Inside quote front (written ++ ['\\']) ⟨.literal quote true, holding (front ++ text)⟩

namespace Inside

variable {quote : Quote} {front : List Char}

theorem mode {part : List Char} {l : Lexer} (inside : Inside quote front part l) :
  ∃ escaped, l.mode = .literal quote escaped
  := by
  cases inside with
  | plain escapes => use false
  | escaped escapes => use true

theorem start (quote : Quote) (front : List Char) :
  Inside quote front [] ⟨.literal quote false, holding front⟩
  := by
  have inside : Inside quote front [] ⟨.literal quote false, holding (front ++ [])⟩ :=
    .plain .nil
  rw [List.append_nil] at inside
  apply inside

/-- One more character of the text is in the buffer. -/
theorem concat {text written part : List Char} {c : Char} (escapes : quote.Escapes text written)
    (hc : quote.Escapes [c] part) :
  Inside quote front (written ++ part) ⟨.literal quote false, (holding (front ++ text)).push c⟩
  := by
  rw [← holding_concat, List.append_assoc]
  apply Inside.plain (escapes.append hc)

/-- A character leaves the lexer inside the literal, unless it is the quote that ends it. -/
theorem step {part : List Char} {l : Lexer} (inside : Inside quote front part l) (c : Char) :
  (∃ next, l.step c = .ok (next, []) ∧ Inside quote front (part ++ [c]) next)
    ∨ c = quote.char ∧ ∃ text, quote.Escapes text part
  := by
  cases inside with
  | @plain text _ escapes =>
    by_cases hback : c = '\\'
    · subst hback
      left
      use ⟨.literal quote true, holding (front ++ text)⟩, rfl
      apply Inside.escaped escapes
    · by_cases hquote : c = quote.char
      · right
        exact ⟨hquote, text, escapes⟩
      · left
        have plain : quote.isSpecial c = false := by simp [Quote.isSpecial, hback, hquote]
        use ⟨.literal quote false, (holding (front ++ text)).push c⟩, step_of_not_special plain _
        apply concat escapes (.plain plain .nil)
  | @escaped text written escapes =>
    left
    use ⟨.literal quote false, (holding (front ++ text)).push c⟩, rfl
    rw [List.append_assoc]
    apply concat escapes (.escaped c .nil)

/-- A text leaves the lexer inside the literal, up to the quote that ends it if there is one. -/
theorem reads {part : List Char} {l : Lexer} (inside : Inside quote front part l)
    (text : List Char) :
  (∃ next, l.Reads text [] next ∧ Inside quote front (part ++ text) next)
    ∨ ∃ more rest written, text = more ++ quote.char :: rest ∧ quote.Escapes written (part ++ more)
  := by
  induction text generalizing part l with
  | nil =>
    left
    rw [List.append_nil]
    exact ⟨l, Reads.nil l, inside⟩
  | cons c text ih =>
    rcases inside.step c with ⟨next, hstep, inside'⟩ | ⟨rfl, written, escapes⟩
    · rcases ih inside' with ⟨last, hreads, inside''⟩ | ⟨more, rest, written, rfl, escapes⟩
      · left
        rw [List.append_assoc] at inside''
        exact ⟨last, Reads.quiet hstep hreads, inside''⟩
      · right
        rw [List.append_assoc] at escapes
        exact ⟨c :: more, rest, written, rfl, escapes⟩
    · right
      rw [← List.append_nil part] at escapes
      exact ⟨[], text, written, rfl, escapes⟩

end Inside

end Lexer

namespace Scan

/-! ### Literals in a run -/

/-- From `s` to `s'` the run has read one component and nothing else: it reads freely again with
an empty buffer, the open blocks and the host's state are as they were, and nothing has passed
between run and host. -/
structure Adds (s s' : Scan σ) (v : Value) : Prop where
  halt : s'.halt = none
  lexer : s'.lexer = .start
  pending : s'.machine.pending = s.machine.pending ++ [v]
  blocks : s'.machine.blocks = s.machine.blocks
  state : s'.state = s.state
  interactions : s'.interactions = s.interactions

/-- What is read as a literal is one component. -/
theorem adds_of_reads (h : Host σ) {s : Scan σ} (running : s.halt = none) {text : List Char}
    {v : String} (reads : s.lexer.Reads text [.literal v] .start) :
  s.Adds (s.feed h text) (.str v)
  := by
  obtain ⟨alike, hnext⟩ := feed_of_reads h running reads
  rw [List.foldl_cons, List.foldl_nil, carryOut_literal h running] at alike
  have running' : (s.feed h text).halt = none := alike.running_iff.mpr running
  constructor
  · apply running'
  · apply hnext running'
  · rw [alike.machine, Machine.pending_push]
  · rw [alike.machine]
    rfl
  · rw [Scan.state, alike.machine]
    rfl
  · rw [Scan.interactions, alike.events]
    simp [Scan.interactions, events, Event.interaction?]

/-- A text that is written between quotes is one component, with what the literal takes over. -/
theorem adds_literal (h : Host σ) {s : Scan σ} (running : s.halt = none)
    (free : s.lexer.mode = .free) {quote : Quote} {text written : List Char}
    (escapes : quote.Escapes text written) :
  s.Adds (s.feed h (quote.char :: (written ++ [quote.char])))
    (.str (s.lexer.buffer.carried ++ String.ofList text))
  := by
  have reads := Lexer.reads_literal escapes s.lexer.buffer
  rw [← free] at reads
  apply adds_of_reads h running reads

/-- The run reads freely after `part`, and not before. -/
def FirstReturn (h : Host σ) (s : Scan σ) (part : List Char) : Prop :=
  (s.feed h part).lexer.mode = .free
    ∧ ∀ r, r <+: part → (s.feed h r).lexer.mode = .free → r = part

/-- The run goes on and has just begun a literal that took `front` over. -/
structure Opens (s : Scan σ) (quote : Quote) (front : String) : Prop where
  halt : s.halt = none
  lexer : s.lexer = ⟨.literal quote false, Lexer.holding front.toList⟩

/-- A quote that is read freely begins a literal. -/
theorem opens_step (h : Host σ) {s : Scan σ} (running : s.halt = none)
    (free : s.lexer.mode = .free) (quote : Quote) :
  (s.step h quote.char).Opens quote s.lexer.buffer.carried
  := by
  have hlex := Lexer.step_quote quote s.lexer.buffer
  rw [← free, Lexer.beginLiteral_eq] at hlex
  rw [step_of_quiet h running hlex]
  exact ⟨running, rfl⟩

namespace Opens

variable {quote : Quote} {front : String}

/-- The run stays inside the literal, up to the quote that ends it if there is one. -/
theorem feed_cases (h : Host σ) {s : Scan σ} (opens : s.Opens quote front) (text : List Char) :
  ((s.feed h text).halt = none ∧ ∃ escaped, (s.feed h text).lexer.mode = .literal quote escaped)
    ∨ ∃ more rest written, text = more ++ quote.char :: rest ∧ quote.Escapes written more
  := by
  have inside := Lexer.Inside.start quote front.toList
  rw [← opens.lexer] at inside
  rcases inside.reads text with ⟨next, reads, inside'⟩ | ends
  · left
    obtain ⟨alike, hnext⟩ := feed_of_reads h opens.halt reads
    have running : (s.feed h text).halt = none := alike.running_iff.mpr opens.halt
    use running
    rw [hnext running]
    apply inside'.mode
  · exact .inr ends

/-- What is written in a literal brings the run back exactly with the quote that ends it. -/
theorem firstReturn (h : Host σ) {s : Scan σ} (opens : s.Opens quote front)
    {text written : List Char} (escapes : quote.Escapes text written) :
  s.FirstReturn h (written ++ [quote.char])
  := by
  constructor
  · have inside := Lexer.reads_escapes escapes front.toList
    have reads := inside.append (Lexer.Reads.single (Lexer.step_end_literal quote _))
    rw [← opens.lexer] at reads
    rw [(adds_of_reads h opens.halt reads).lexer]
    rfl
  · intro r hr hfree
    rcases opens.feed_cases h r with ⟨-, escaped, hmode⟩ | ⟨more, rest, written', rfl, escapes'⟩
    · rw [hmode] at hfree
      cases hfree
    · -- The first quote without a backslash is the one behind what is written.
      obtain ⟨tail, htail⟩ := hr
      rw [List.append_assoc, List.cons_append] at htail
      obtain ⟨-, rfl⟩ := escapes'.unique escapes htail
      have hnil : rest ++ tail = [] := (List.cons.inj (List.append_cancel_left htail)).2
      rw [(List.append_eq_nil_iff.mp hnil).1]

/-- A run that reads freely again did so first behind one written text and its quote. -/
theorem exists_firstReturn (h : Host σ) {s : Scan σ} (opens : s.Opens quote front)
    {text : List Char} (free : (s.feed h text).lexer.mode = .free) :
  ∃ part, part <+: text ∧ s.FirstReturn h part
    ∧ ∃! x : List Char × List Char, quote.Escapes x.1 x.2 ∧ part = x.2 ++ [quote.char]
  := by
  rcases opens.feed_cases h text with ⟨-, escaped, hmode⟩ | ⟨more, rest, inner, rfl, escapes⟩
  · rw [hmode] at free
    cases free
  · use more ++ [quote.char]
    refine ⟨?_, opens.firstReturn h escapes, ?_⟩
    · use rest
      rw [List.append_assoc, List.singleton_append]
    · use (inner, more), ⟨escapes, rfl⟩
      rintro ⟨inner', written⟩ ⟨escapes', hpart⟩
      obtain ⟨rfl, rfl⟩ := escapes.unique escapes' hpart
      rfl

/-- Without a quote that ends it, the literal does not end before the text does. -/
theorem result_of_forall_not_prefix (h : Host σ) {s : Scan σ} (opens : s.Opens quote front)
    {text : List Char}
    (endless : ∀ inner written, quote.Escapes inner written → ¬ written ++ [quote.char] <+: text) :
  (s.feed h text).result = .error (.malformed .unterminatedLiteral (s.place.after text))
  := by
  rcases opens.feed_cases h text with ⟨running, escaped, hmode⟩ | ⟨more, rest, inner, rfl, escapes⟩
  · rw [result, running, Lexer.finish, hmode, place_feed h running]
  · apply absurd _ (endless inner more escapes)
    use rest
    rw [List.append_assoc, List.singleton_append]

end Opens

end Scan

/-! ### What is written and what is read -/

/-- Literals are read as they are written. Where a script is read freely, a text written between
quotes adds one component, the text behind what the literal takes over; no backslash is needed but
before the quote and before backslashes, and without one every other character stands for itself.
Conversely, where a run reads freely again after an opening quote, it does so first behind exactly
one written text and the quote that ends it; and when no such text comes, the script ends inside
the literal. -/
theorem Host.scan_literal (h : Host σ) (s : σ) (p : String) (quote : Quote)
    (running : (h.scan s p).halt = none) (free : (h.scan s p).lexer.mode = .free) :
  let opened := h.scan s (p.push quote.char)
  let carried := (h.scan s p).lexer.buffer.carried
  (∀ text written, quote.Escapes text written →
      (h.scan s p).Adds (opened.feed h (written ++ [quote.char]))
        (.str (carried ++ String.ofList text)))
    ∧ (∀ text, (∀ c ∈ text, c ≠ '\\' ∧ c ≠ quote.char) →
      (h.scan s p).Adds (opened.feed h (text ++ [quote.char]))
        (.str (carried ++ String.ofList text)))
    ∧ (∀ text r, r <+: text → (opened.feed h r).lexer.mode = .free →
      ∃ part, part <+: text ∧ opened.FirstReturn h part
        ∧ ∃! x : List Char × List Char, quote.Escapes x.1 x.2 ∧ part = x.2 ++ [quote.char])
    ∧ ∀ text, (∀ inner written, quote.Escapes inner written →
        ¬ written ++ [quote.char] <+: text) →
      (opened.feed h text).result = .error (.malformed .unterminatedLiteral
        (Position.start.after ((p.push quote.char).toList ++ text)))
  := by
  intro opened carried
  have hopened : opened = (h.scan s p).step h quote.char := h.scan_push s p quote.char
  have opens : opened.Opens quote carried := by
    rw [hopened]
    apply Scan.opens_step h running free
  have adds (text written : List Char) (escapes : quote.Escapes text written) :
      (h.scan s p).Adds (opened.feed h (written ++ [quote.char]))
        (.str (carried ++ String.ofList text)) := by
    rw [hopened]
    apply Scan.adds_literal h running free escapes
  refine ⟨adds, ?_, ?_, ?_⟩
  · intro text plain
    apply adds text text (Quote.escapes_self plain)
  · intro text r hr hfree
    obtain ⟨part, hpart, returns, written⟩ := opens.exists_firstReturn h hfree
    exact ⟨part, hpart.trans hr, returns, written⟩
  · intro text endless
    have hplace : opened.place = Position.start.after (p.push quote.char).toList :=
      Scan.place_feed h opens.halt
    rw [opens.result_of_forall_not_prefix h endless, hplace, Position.after_append]

/-- The literal behind the word holds its own quote and a carriage return, each with a backslash
before it, and the other quote and a line feed without one. Behind a backslash the quote does not
end a literal. -/
theorem Host.scan_literal_mixed :
  let h := Host.fixed none { result := .null }
  let q := Quote.double
  let opened := h.scan () ("a b".push q.char)
  let text := ['"', '\'', '\n', '\r']
  let written := ['\\', '"', '\'', '\n', '\\', '\r']
  ((h.scan () "a b").halt = none ∧ (h.scan () "a b").lexer.mode = .free)
    ∧ (q.Escapes text written
      ∧ (h.scan () "a b").Adds (opened.feed h (written ++ [q.char])) (.str "b\"'\n\r"))
    ∧ ((opened.feed h (written ++ [q.char])).lexer.mode = .free
      ∧ ∃ part, part <+: written ++ [q.char] ∧ opened.FirstReturn h part
        ∧ ∃! x : List Char × List Char, q.Escapes x.1 x.2 ∧ part = x.2 ++ [q.char])
    ∧ ((∀ inner more, q.Escapes inner more → ¬ more ++ [q.char] <+: ['\\', '"'])
      ∧ (opened.feed h ['\\', '"']).result = .error (.malformed .unterminatedLiteral ⟨1, 7⟩))
  := by
  intro h q opened text written
  have running : (h.scan () "a b").halt = none := by decide +kernel
  have free : (h.scan () "a b").lexer.mode = .free := by decide +kernel
  have escapes : q.Escapes text written :=
    .escaped '"' (.plain rfl (.plain rfl (.escaped '\r' .nil)))
  have returns : (opened.feed h (written ++ [q.char])).lexer.mode = .free := by decide +kernel
  have endless : ∀ inner more, q.Escapes inner more → ¬ more ++ [q.char] <+: ['\\', '"'] := by
    intro inner more escapes'
    cases escapes' with
    | nil => decide
    | plain plain _ =>
      intro hmore
      obtain rfl := (List.cons_prefix_cons.mp hmore).1
      cases plain
    | escaped c _ => simp [q, Quote.char]
  have htext : (h.scan () "a b").lexer.buffer.carried ++ String.ofList text = "b\"'\n\r" := by
    decide +kernel
  have hplace : Position.start.after (("a b".push q.char).toList ++ ['\\', '"']) = ⟨1, 7⟩ := by
    decide +kernel
  obtain ⟨hadds, -, hreturns, hendless⟩ := scan_literal h () "a b" q running free
  have adds := hadds text written escapes
  have hresult := hendless _ endless
  rw [htext] at adds
  rw [hplace] at hresult
  exact ⟨⟨running, free⟩, ⟨escapes, adds⟩,
    ⟨returns, hreturns _ _ (List.prefix_refl _) returns⟩, endless, hresult⟩

/-! ### Words before literals -/

namespace Lexer

/-- A word that waits is taken over by a literal as it is, with any blanks beside it. -/
theorem carried_holding {text : List Char} (h : ∃ c ∈ text, Text.isBlank c = false) :
  (holding text).carried = String.ofList text
  := by
  have hblank : ¬ (holding text).isBlank = true := by
    rw [Buffer.isBlank_iff, toList_holding]
    intro hall
    obtain ⟨c, hc, hc'⟩ := h
    rw [hall c hc] at hc'
    cases hc'
  rw [Buffer.carried, if_neg hblank, Buffer.text, toList_holding]

/-- From an empty buffer, a run of spacing leaves a space there if it has a line feed. -/
theorem reads_leading_spacing {run : List Char} (spacing : ∀ c ∈ run, Text.isSpacing c) :
  start.Reads run [] ⟨.free, holding (if '\n' ∈ run then " " else "").toList⟩
  := by
  have reads := reads_spacing .empty spacing
  have hbuffer : spacingBuffer .empty run
      = holding (if '\n' ∈ run then " " else "").toList := by
    simp only [spacingBuffer_empty, List.contains_iff_mem]
    split
    · rfl
    · rfl
  rw [spacingTokens_empty, hbuffer] at reads
  apply reads

/-- A word and a literal directly behind it are read as one literal. What was in the buffer before
the word is a part of it. -/
theorem reads_glued (front : String) {word : String} (writable : (Component.word word).Writable)
    (quote : Quote) (text : String) :
  Reads ⟨.free, holding front.toList⟩ (word.toList ++ quote.enclose text.toList)
    [.literal (front ++ word ++ text)] start
  := by
  obtain ⟨hne, hchars⟩ := writable
  have hword := reads_pushed front.toList word.toList
    (fun c hc b => step_of_writable (hchars c hc).1 (hchars c hc).2 b)
  have hliteral := reads_literal (quote.escapes_escape text.toList)
    (holding (front.toList ++ word.toList))
  have hcarried : (holding (front.toList ++ word.toList)).carried = front ++ word := by
    obtain ⟨c, hc⟩ := List.exists_mem_of_ne_nil _ (mt String.toList_eq_nil_iff.mp hne)
    rw [carried_holding ⟨c, List.mem_append_right _ hc, (hchars c hc).1⟩, String.ofList_append,
      String.ofList_toList, String.ofList_toList]
  rw [hcarried, String.ofList_toList] at hliteral
  apply hword.append hliteral

end Lexer

namespace Scan

/-- There is one component that a run has read. -/
theorem Adds.unique {s s' : Scan σ} {v w : Value} (first : s.Adds s' v) (second : s.Adds s' w) :
  v = w
  := by
  have hpending := first.pending.symm.trans second.pending
  apply (List.cons.inj (List.append_cancel_left hpending)).1

/-- A word and a literal directly behind it are one component wherever they stand, but not the
same one. From an empty buffer, behind any run of spacing, the component is the word and the text
of the literal, with a space before them if there was a line feed in the run. So the two are what
the component holds exactly behind a run without a line feed. -/
theorem feed_glued (h : Host σ) (s : Scan σ) (run : List Char) (word : String) (quote : Quote)
    (text : String) (running : s.halt = none) (idle : s.lexer = .start)
    (spacing : ∀ c ∈ run, Text.isSpacing c) (writable : (Component.word word).Writable) :
  let after := s.feed h (run ++ (word.toList ++ quote.enclose text.toList))
  s.Adds after (.str ((if '\n' ∈ run then " " else "") ++ word ++ text))
    ∧ (s.Adds after (.str (word ++ text)) ↔ '\n' ∉ run)
  := by
  intro after
  have adds : s.Adds after (.str ((if '\n' ∈ run then " " else "") ++ word ++ text)) := by
    apply adds_of_reads h running
    rw [idle]
    apply (Lexer.reads_leading_spacing spacing).append
    apply Lexer.reads_glued _ writable
  use adds
  constructor
  · intro adds' hline
    rw [if_pos hline] at adds
    have hsame : " " ++ word ++ text = word ++ text := Value.str.inj (adds.unique adds')
    have hlength := congrArg String.length hsame
    have hspace : " ".length = 1 := rfl
    rw [String.length_append, String.length_append, String.length_append, hspace] at hlength
    omega
  · intro hline
    rw [if_neg hline, String.empty_append] at adds
    apply adds

/-- The same word and literal, behind two spaces and behind a line feed. -/
theorem feed_glued_twice :
  let h := Host.fixed none { result := .null }
  let s := h.scan () "say "
  let glued := "ab".toList ++ Quote.double.enclose "cd".toList
  (s.halt = none ∧ s.lexer = .start ∧ (Component.word "ab").Writable)
    ∧ s.Adds (s.feed h ([' ', ' '] ++ glued)) (.str "abcd")
    ∧ s.Adds (s.feed h (['\n'] ++ glued)) (.str " abcd")
    ∧ ¬ s.Adds (s.feed h (['\n'] ++ glued)) (.str "abcd")
  := by
  intro h s glued
  have running : s.halt = none := by decide +kernel
  have idle : s.lexer = .start := by decide +kernel
  have writable : (Component.word "ab").Writable := by decide +kernel
  have spaces : ∀ c ∈ [' ', ' '], Text.isSpacing c := by simp [Text.isSpacing]
  have line : ∀ c ∈ ['\n'], Text.isSpacing c := by simp [Text.isSpacing]
  have hspaces := feed_glued h s [' ', ' '] "ab" .double "cd" running idle spaces writable
  have hline := feed_glued h s ['\n'] "ab" .double "cd" running idle line writable
  have hglued : "ab" ++ "cd" = "abcd" := by decide +kernel
  have hbehind : (if '\n' ∈ ['\n'] then " " else "") ++ "ab" ++ "cd" = " abcd" := by decide +kernel
  rw [hglued] at hspaces
  rw [hglued, hbehind] at hline
  exact ⟨⟨running, idle, writable⟩, hspaces.2.mpr (by decide), hline.1, mt hline.2.mp (by decide)⟩

end Scan

/-- A line feed between a word and the component before it becomes a space in the component. -/
theorem Host.scan_glued_line_feed :
  let h : Host (List String) :=
    ⟨id, fun _ _ => none, fun shown components =>
      ({ result := .null }, shown ++ components.map Value.toText)⟩
  (h.scan [] "say ab\"cd\";").state = ["\"say\"", "\"abcd\""]
    ∧ (h.scan [] "say \nab\"cd\";").state = ["\"say\"", "\" abcd\""]
  := by
  decide +kernel

end GuardedScript
