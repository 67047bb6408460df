import GuardedScript.Proofs.Runs

/-!
# Reading does not depend on the host

A scan reads and acts in one pass, and what the host answers decides which blocks are active. But
how the text is read, how many components are waiting, how deep blocks are nested and where a run
is refused depend on the text alone. The host decides only whether a run is *interrupted*: the
host stops it, or has no value for a variable.

So two runs of one text with any two hosts go side by side until one of them is interrupted.
-/

universe u v

namespace GuardedScript

variable {σ : Type u} {τ : Type v}

/-! ### What the text decides -/

/-- What the text decides about the machine: how many components are waiting, and how many blocks
are open. -/
structure Shape where
  pending : Nat
  depth : Nat

/-- Leaving a block leaves one block fewer open. -/
theorem Blocks.depth_of_leave? {b rest : Blocks} {closed : Block}
    (h : b.leave? = some (closed, rest)) :
  b.depth = rest.depth + 1
  := by
  have hlength := congrArg List.length (toList_eq_of_leave? h)
  simpa [toList, depth] using hlength

/-- What a token makes of a shape, if the text is not malformed there. -/
def Shape.step (shape : Shape) : Token → Except Malformation Shape
  | .word _ => .ok ⟨shape.pending + 1, shape.depth⟩
  | .literal _ => .ok ⟨shape.pending + 1, shape.depth⟩
  | .reference _ => .ok ⟨shape.pending + 1, shape.depth⟩
  | .stop => .ok ⟨0, shape.depth⟩
  | .enter => if shape.pending = 0 then .error .blockWithoutGuard else .ok ⟨0, shape.depth + 1⟩
  | .leave =>
    if shape.depth = 0 then .error .closeWithoutBlock else .ok ⟨shape.pending, shape.depth - 1⟩
  | .comment => if shape.pending = 0 then .ok shape else .error .commentInInstruction

/-- The variable that a token asks for. -/
def Token.name? : Token → Option String
  | reference name => some name
  | _ => none

/-- The run was interrupted: the host stopped it or had no value for a variable. -/
def Halt.isInterruption : Halt → Bool
  | aborted => true
  | failed (.undefined _ _) => true
  | failed (.malformed _ _) => false

/-- A run with the result was interrupted. -/
def isInterrupted : Except ScriptError Outcome → Bool
  | .ok .completed => false
  | .ok .aborted => true
  | .error (.undefined _ _) => true
  | .error (.malformed _ _) => false

namespace Scan

/-- The shape of the machine of a run. -/
def shape (s : Scan σ) : Shape :=
  ⟨s.machine.pending.length, s.machine.blocks.depth⟩

/-- The run was interrupted. -/
def Interrupted (s : Scan σ) : Prop :=
  ∃ reason, s.halt = some reason ∧ reason.isInterruption = true

/-- The text of the run was refused at a place. -/
def Refused (s : Scan σ) (kind : Malformation) (place : Position) : Prop :=
  s.halt = some (.failed (.malformed kind place))

/-- The run does what the text decides: it goes on with a shape, or is refused at a place. -/
def Obeys (s : Scan σ) (place : Position) : Except Malformation Shape → Prop
  | .ok shape => s.halt = none ∧ s.shape = shape
  | .error kind => s.Refused kind place

/-- No instruction is under way when no components are waiting. -/
theorem idle_iff {s : Scan σ} :
  s.machine.assembling = false ↔ s.shape.pending = 0
  := by
  rw [Machine.assembling_eq_false_iff]
  apply List.length_eq_zero_iff.symm

/-- An instruction is under way when components are waiting. -/
theorem assembling_iff {s : Scan σ} :
  s.machine.assembling = true ↔ s.shape.pending ≠ 0
  := by
  rw [ne_eq, ← idle_iff, Bool.not_eq_false]

/-- What events add to the names that the host has been asked for. -/
theorem names_of_events {s s' : Scan σ} {new : List Event} (h : s'.events = s.events ++ new) :
  s'.names = s.names ++ (new.filterMap Event.interaction?).filterMap Interaction.name?
  := by
  rw [names, interactions_of_events h, List.filterMap_append]
  rfl

/-- An instruction that ends asks for no variable. -/
theorem names_dispatched (d : Dispatch) (rest : List Event) :
  ((Event.dispatched d :: rest).filterMap Event.interaction?).filterMap Interaction.name?
    = (rest.filterMap Event.interaction?).filterMap Interaction.name?
  := by
  cases d with
  | blank => rfl
  | skipped components => rfl
  | called components guard reply => rfl

/-- A token asks for its variable and for no other. -/
theorem names_carryOut (h : Host σ) {s : Scan σ} (running : s.halt = none) (t : Token) :
  (s.carryOut h t).names = s.names ++ t.name?.toList
  := by
  have hevents : (s.carryOut h t).events = s.events ++ (s.machine.step h s.place t).events := by
    simp [carryOut_of_running h running, events]
  rw [names_of_events hevents]
  congr 1
  cases t with
  | word text => rfl
  | literal text => rfl
  | reference name =>
    rw [Machine.step]
    split
    · rfl
    · rfl
  | stop => apply names_dispatched _ []
  | enter =>
    rw [Machine.step]
    split
    · apply names_dispatched
    · rfl
  | leave =>
    rw [Machine.step]
    split
    · rfl
    · rfl
  | comment =>
    rw [Machine.step]
    split
    · rfl
    · rfl

/-- A token does to a run what the text decides, unless the run is interrupted. -/
theorem obeys_carryOut (h : Host σ) {s : Scan σ} (running : s.halt = none) (t : Token) :
  (s.carryOut h t).Interrupted ∨ (s.carryOut h t).Obeys s.place (s.shape.step t)
  := by
  cases t with
  | word text =>
    right
    rw [carryOut_word h running]
    exact ⟨running, by simp [shape, Machine.push]⟩
  | literal text =>
    right
    rw [carryOut_literal h running]
    exact ⟨running, by simp [shape, Machine.push]⟩
  | reference name =>
    cases hlookup : h.lookup s.state name with
    | none =>
      left
      rw [carryOut_reference_of_none h running hlookup]
      exact ⟨_, rfl, rfl⟩
    | some v =>
      right
      rw [carryOut_reference h running hlookup]
      exact ⟨running, by simp [shape, Machine.push]⟩
  | stop =>
    rw [carryOut_stop h running]
    cases haborts : (s.machine.dispatch h false).1.aborts with
    | true =>
      left
      exact ⟨.aborted, rfl, rfl⟩
    | false =>
      right
      exact ⟨rfl, rfl⟩
  | enter =>
    right
    rw [Shape.step]
    cases assembling : s.machine.assembling with
    | false =>
      rw [if_pos (idle_iff.mp assembling), carryOut_enter_of_idle h running assembling]
      rfl
    | true =>
      rw [if_neg (assembling_iff.mp assembling), carryOut_enter h running assembling rfl]
      exact ⟨running, rfl⟩
  | leave =>
    right
    rw [Shape.step]
    cases hleave : s.machine.blocks.leave? with
    | none =>
      have hdepth : s.shape.depth = 0 := Blocks.leave?_eq_none_iff.mp hleave
      rw [if_pos hdepth, carryOut_leave_of_root h running hleave]
      rfl
    | some left =>
      have hdepth := Blocks.depth_of_leave? hleave
      have hne : s.shape.depth ≠ 0 := by
        rw [shape, hdepth]
        apply Nat.succ_ne_zero
      rw [if_neg hne, carryOut_leave h running hleave]
      exact ⟨running, by simp [shape, hdepth]⟩
  | comment =>
    right
    rw [Shape.step]
    cases assembling : s.machine.assembling with
    | false =>
      rw [if_pos (idle_iff.mp assembling), carryOut_comment h running assembling]
      exact ⟨running, rfl⟩
    | true =>
      rw [if_neg (assembling_iff.mp assembling),
        carryOut_comment_of_assembling h running assembling]
      rfl

/-! ### Two runs side by side -/

/-- Two runs have read alike: in the same mode, with the same characters in the buffer, as many
components waiting, as many blocks open, and at the same line and column. -/
structure ReadAlike (s : Scan σ) (t : Scan τ) : Prop where
  lexer : s.lexer = t.lexer
  pending : s.machine.pending.length = t.machine.pending.length
  depth : s.machine.blocks.depth = t.machine.blocks.depth
  place : s.place = t.place

/-- Two runs of one text, side by side. Both go on and have read alike, or both were refused at
the same place; or one of them was interrupted, and has asked for no variables but those that the
other has asked for first. -/
inductive Abreast (s : Scan σ) (t : Scan τ) : Prop
  | running (hs : s.halt = none) (ht : t.halt = none) (alike : s.ReadAlike t)
    (names : s.names = t.names)
  | refused (kind : Malformation) (place : Position) (hs : s.Refused kind place)
    (ht : t.Refused kind place) (names : s.names = t.names)
  | first (hs : s.Interrupted) (names : s.names <+: t.names)
  | second (ht : t.Interrupted) (names : t.names <+: s.names)

theorem Refused.isSome {s : Scan σ} {kind : Malformation} {place : Position}
    (h : s.Refused kind place) :
  s.halt.isSome
  := by
  rw [h, Option.isSome_some]

theorem Interrupted.isSome {s : Scan σ} (h : s.Interrupted) :
  s.halt.isSome
  := by
  obtain ⟨reason, hreason, -⟩ := h
  rw [hreason, Option.isSome_some]

/-- Names that have been asked for stay at the beginning. -/
theorem names_prefix_of_events {s s' : Scan σ} (h : s.events <+: s'.events) :
  s.names <+: s'.names
  := by
  apply (h.filterMap _).filterMap

/-- A token adds to the names that have been asked for. -/
theorem names_prefix_carryOut (h : Host σ) (s : Scan σ) (t : Token) :
  s.names <+: (s.carryOut h t).names
  := by
  by_cases running : s.halt = none
  · rw [names_carryOut h running]
    apply List.prefix_append
  · rewrite [carryOut_of_halt h (Option.isSome_iff_ne_none.mpr running)]
    apply List.prefix_refl

namespace Abreast

/-- Runs stay side by side through a token. -/
theorem carryOut (h₁ : Host σ) (h₂ : Host τ) {s : Scan σ} {t : Scan τ} (abreast : s.Abreast t)
    (token : Token) :
  (s.carryOut h₁ token).Abreast (t.carryOut h₂ token)
  := by
  cases abreast with
  | running hs ht alike names =>
    have hnames : (s.carryOut h₁ token).names = (t.carryOut h₂ token).names := by
      rw [names_carryOut h₁ hs, names_carryOut h₂ ht, names]
    have hshape : s.shape = t.shape := by rw [shape, shape, alike.pending, alike.depth]
    rcases obeys_carryOut h₁ hs token with interrupted | hs'
    · apply Abreast.first interrupted
      rewrite [hnames]
      apply List.prefix_refl
    · rcases obeys_carryOut h₂ ht token with interrupted | ht'
      · apply Abreast.second interrupted
        rewrite [hnames]
        apply List.prefix_refl
      · rw [← hshape, ← alike.place] at ht'
        cases hstep : s.shape.step token with
        | error kind =>
          rw [hstep] at hs' ht'
          apply Abreast.refused kind s.place hs' ht' hnames
        | ok next =>
          rw [hstep] at hs' ht'
          obtain ⟨hs', hsnext⟩ := hs'
          obtain ⟨ht', htnext⟩ := ht'
          obtain ⟨hslexer, hsplace⟩ := lexer_carryOut h₁ s token
          obtain ⟨htlexer, htplace⟩ := lexer_carryOut h₂ t token
          have hsame := hsnext.trans htnext.symm
          apply Abreast.running hs' ht' _ hnames
          constructor
          · rw [hslexer, htlexer, alike.lexer]
          · apply congrArg Shape.pending hsame
          · apply congrArg Shape.depth hsame
          · rw [hsplace, htplace, alike.place]
  | refused kind place hs ht names =>
    rw [carryOut_of_halt h₁ hs.isSome, carryOut_of_halt h₂ ht.isSome]
    apply Abreast.refused kind place hs ht names
  | first hs names =>
    rw [carryOut_of_halt h₁ hs.isSome]
    apply Abreast.first hs (names.trans (names_prefix_carryOut h₂ t token))
  | second ht names =>
    rw [carryOut_of_halt h₂ ht.isSome]
    apply Abreast.second ht (names.trans (names_prefix_carryOut h₁ s token))

/-- Runs stay side by side through tokens. -/
theorem foldl_carryOut (h₁ : Host σ) (h₂ : Host τ) (tokens : List Token) {s : Scan σ}
    {t : Scan τ} (abreast : s.Abreast t) :
  (tokens.foldl (Scan.carryOut h₁) s).Abreast (tokens.foldl (Scan.carryOut h₂) t)
  := by
  induction tokens generalizing s t with
  | nil => apply abreast
  | cons token rest ih => apply ih (abreast.carryOut h₁ h₂ token)

/-- Runs stay side by side when both go on in the same way. -/
theorem goOn {s : Scan σ} {t : Scan τ} (abreast : s.Abreast t) (lexer : Lexer)
    (place : Position) :
  (s.goOn lexer place).Abreast (t.goOn lexer place)
  := by
  obtain ⟨ls, ps, hsgo⟩ := s.goOn_eq lexer place
  obtain ⟨lt, pt, htgo⟩ := t.goOn_eq lexer place
  cases abreast with
  | running hs ht alike names =>
    rw [goOn_of_running hs, goOn_of_running ht]
    exact .running hs ht ⟨rfl, alike.pending, alike.depth, rfl⟩ names
  | refused kind refusal hs ht names =>
    rw [hsgo, htgo]
    exact .refused kind refusal hs ht names
  | first hs names =>
    rw [hsgo, htgo]
    exact .first hs names
  | second ht names =>
    rw [hsgo, htgo]
    exact .second ht names

/-- Runs stay side by side through a character. -/
theorem step (h₁ : Host σ) (h₂ : Host τ) {s : Scan σ} {t : Scan τ} (abreast : s.Abreast t)
    (c : Char) :
  (s.step h₁ c).Abreast (t.step h₂ c)
  := by
  cases abreast with
  | running hs ht alike names =>
    cases hlex : s.lexer.step c with
    | error kind =>
      have hlex' : t.lexer.step c = .error kind := by rw [← alike.lexer, hlex]
      have refused : (t.refuse kind).Refused kind s.place := by
        rw [alike.place]
        rfl
      rw [step_of_error h₁ hs hlex, step_of_error h₂ ht hlex']
      exact .refused kind s.place rfl refused names
    | ok read =>
      obtain ⟨lexer, tokens⟩ := read
      have hlex' : t.lexer.step c = .ok (lexer, tokens) := by rw [← alike.lexer, hlex]
      rw [step_of_ok h₁ hs hlex, step_of_ok h₂ ht hlex', ← alike.place]
      apply Abreast.goOn
      apply Abreast.foldl_carryOut
      exact .running hs ht alike names
  | refused kind place hs ht names =>
    rw [step_of_halt h₁ hs.isSome, step_of_halt h₂ ht.isSome]
    apply Abreast.refused kind place hs ht names
  | first hs names =>
    rw [step_of_halt h₁ hs.isSome]
    apply Abreast.first hs (names.trans _)
    apply names_prefix_of_events (events_prefix_step h₂ t c)
  | second ht names =>
    rw [step_of_halt h₂ ht.isSome]
    apply Abreast.second ht (names.trans _)
    apply names_prefix_of_events (events_prefix_step h₁ s c)

end Abreast

end Scan

/-- Runs of one text stay side by side. -/
theorem Host.abreast_scan (h₁ : Host σ) (h₂ : Host τ) (s : σ) (t : τ) (text : String) :
  (h₁.scan s text).Abreast (h₂.scan t text)
  := by
  induction text using String.push_induction with
  | empty => exact .running rfl rfl ⟨rfl, rfl, rfl, rfl⟩ rfl
  | push text c ih =>
    rw [scan_push, scan_push]
    apply ih.step h₁ h₂ c

/-! ### Results -/

namespace Scan

/-- A run that was interrupted has a result that says so. -/
theorem Interrupted.result {s : Scan σ} (h : s.Interrupted) :
  isInterrupted s.result = true
  := by
  obtain ⟨reason, hreason, hinterrupt⟩ := h
  rw [Scan.result, hreason]
  cases reason with
  | aborted => rfl
  | failed error =>
    cases error with
    | malformed kind place => cases hinterrupt
    | undefined name place => rfl

namespace Abreast

/-- Two runs that have not stopped have read alike. -/
theorem readAlike {s : Scan σ} {t : Scan τ} (abreast : s.Abreast t) (hs : s.halt = none)
    (ht : t.halt = none) :
  s.ReadAlike t
  := by
  cases abreast with
  | running hs' ht' alike names => apply alike
  | refused kind place hs' ht' names => cases hs'.symm.trans hs
  | first hs' names =>
    obtain ⟨reason, hreason, -⟩ := hs'
    cases hreason.symm.trans hs
  | second ht' names =>
    obtain ⟨reason, hreason, -⟩ := ht'
    cases hreason.symm.trans ht

/-- A run is not refused before a run beside it has stopped. -/
theorem not_refused {s : Scan σ} {t : Scan τ} (abreast : s.Abreast t) (hs : s.halt = none)
    (kind : Malformation) (place : Position) :
  ¬ t.Refused kind place
  := by
  intro refused
  cases abreast with
  | running hs' ht' alike names => cases refused.symm.trans ht'
  | refused kind place hs' ht' names => cases hs'.symm.trans hs
  | first hs' names =>
    obtain ⟨reason, hreason, -⟩ := hs'
    cases hreason.symm.trans hs
  | second ht' names =>
    obtain ⟨reason, hreason, hinterrupt⟩ := ht'
    cases hreason.symm.trans refused
    cases hinterrupt

/-- Of the variables that two runs have asked for, one list is the beginning of the other. -/
theorem names_prefix {s : Scan σ} {t : Scan τ} (abreast : s.Abreast t) :
  s.names <+: t.names ∨ t.names <+: s.names
  := by
  cases abreast with
  | running hs ht alike names =>
    left
    rewrite [names]
    apply List.prefix_refl
  | refused kind place hs ht names =>
    left
    rewrite [names]
    apply List.prefix_refl
  | first hs names => apply Or.inl names
  | second ht names => apply Or.inr names

/-- Two runs that were not interrupted have the same result, and have asked for the same
variables. -/
theorem result {s : Scan σ} {t : Scan τ} (abreast : s.Abreast t)
    (hs : isInterrupted s.result = false) (ht : isInterrupted t.result = false) :
  s.result = t.result ∧ s.names = t.names
  := by
  cases abreast with
  | running hs' ht' alike names =>
    have hassembling : s.machine.assembling = t.machine.assembling := by
      rw [Bool.eq_iff_iff, assembling_iff, assembling_iff, shape, shape, alike.pending]
    constructor
    · rw [Scan.result, hs', Scan.result, ht', alike.lexer, alike.place, hassembling]
    · apply names
  | refused kind place hs' ht' names =>
    constructor
    · rw [Scan.result, hs', Scan.result, ht']
    · apply names
  | first hs' names =>
    rw [hs'.result] at hs
    cases hs
  | second ht' names =>
    rw [ht'.result] at ht
    cases ht

end Abreast

end Scan

/-! ### Independence -/

/-- Reading does not depend on the host. Take the runs of a text with any two hosts. As long as
neither has stopped, they have read alike. If in the end neither was interrupted, their results
are the same, and they have asked for the same variables in the same order. As long as the first
has not stopped, the second has not been refused: so when one is interrupted at a character, the
other was not refused at an earlier one. And of the variables they have asked for, one list is the
beginning of the other. -/
theorem Host.scan_reads_alike (h₁ : Host σ) (h₂ : Host τ) (s : σ) (t : τ) (text : String) :
  ((h₁.scan s text).halt = none → (h₂.scan t text).halt = none →
      (h₁.scan s text).ReadAlike (h₂.scan t text))
    ∧ (isInterrupted (h₁.scan s text).result = false →
      isInterrupted (h₂.scan t text).result = false →
      (h₁.scan s text).result = (h₂.scan t text).result
        ∧ (h₁.scan s text).names = (h₂.scan t text).names)
    ∧ ((h₁.scan s text).halt = none →
      ∀ kind place, (h₂.scan t text).halt ≠ some (.failed (.malformed kind place)))
    ∧ ((h₁.scan s text).names <+: (h₂.scan t text).names
      ∨ (h₂.scan t text).names <+: (h₁.scan s text).names)
  := by
  have abreast := abreast_scan h₁ h₂ s t text
  constructor
  · apply abreast.readAlike
  · constructor
    · apply abreast.result
    · constructor
      · apply abreast.not_refused
      · apply abreast.names_prefix

/-- With one host every guard holds, with the other none does. Both runs read alike, and both are
refused where a block is closed that was never opened. -/
theorem Host.scan_reads_alike_close :
  let h₁ := Host.fixed (some .null) { result := .bool true }
  let h₂ := Host.fixed (some (.str "x")) { result := .bool false }
  ((h₁.scan () "if $x \x7b b;").halt = none ∧ (h₂.scan () "if $x \x7b b;").halt = none
      ∧ (h₁.scan () "if $x \x7b b;").ReadAlike (h₂.scan () "if $x \x7b b;"))
    ∧ isInterrupted (h₁.scan () "if $x \x7b b; \x7d \x7d").result = false
    ∧ isInterrupted (h₂.scan () "if $x \x7b b; \x7d \x7d").result = false
    ∧ (h₁.scan () "if $x \x7b b; \x7d \x7d").result
      = (h₂.scan () "if $x \x7b b; \x7d \x7d").result
  := by
  intro h₁ h₂
  have running₁ : (h₁.scan () "if $x \x7b b;").halt = none := by decide +kernel
  have running₂ : (h₂.scan () "if $x \x7b b;").halt = none := by decide +kernel
  have ends₁ : isInterrupted (h₁.scan () "if $x \x7b b; \x7d \x7d").result = false := by
    decide +kernel
  have ends₂ : isInterrupted (h₂.scan () "if $x \x7b b; \x7d \x7d").result = false := by
    decide +kernel
  have alike := (scan_reads_alike h₁ h₂ () () "if $x \x7b b;").1 running₁ running₂
  have same := (scan_reads_alike h₁ h₂ () () "if $x \x7b b; \x7d \x7d").2.1 ends₁ ends₂
  exact ⟨⟨running₁, running₂, alike⟩, ends₁, ends₂, same.1⟩

end GuardedScript
