import GuardedScript.Proofs.Nesting

/-!
# Scripts one after the other

A run that is *at rest* keeps nothing of its text but three numbers: the line and the column it
has reached, and the number of its next block. None of them decides anything. So what comes after
acts as a script of its own: it does what it would do in a run of its own, and when it fails, the
place is *behind* the text before it.
-/

universe u

namespace GuardedScript

variable {σ : Type u}

/-! ### Places behind a text -/

namespace Position

/-- The place, behind a text `front`, of what stands at a place of a text of its own. It is as
many lines further on as `front` has line feeds, and on the first line as many columns as the last
line of `front` has characters. -/
def behind (front : List Char) (p : Position) : Position :=
  ⟨p.line + front.count '\n',
    if p.line = 1 then p.column + (lastLine front).length else p.column⟩

/-- The place after a text is behind it. -/
theorem behind_start (front : List Char) :
  start.behind front = start.after front
  := by
  rw [after_start]
  rfl

/-- Places behind a text move as places of a text of their own. -/
theorem behind_advance (front : List Char) {p : Position} (hline : 0 < p.line) (c : Char) :
  (p.behind front).advance c = (p.advance c).behind front
  := by
  rw [advance, advance]
  split
  · -- Behind a line feed no place is on the first line.
    have hnext : p.line + 1 ≠ 1 := by omega
    simp only [behind, if_neg hnext, Nat.add_right_comm]
  · simp only [behind]
    split
    · rw [Nat.add_right_comm]
    · rfl

end Position

/-! ### Blocks and machines that are alike -/

namespace Blocks

/-- As many blocks are open, and the same ones among them are active. Their numbers may differ. -/
def Alike (a b : Blocks) : Prop :=
  a.toList.map Block.active = b.toList.map Block.active

namespace Alike

theorem current {a b : Blocks} (alike : a.Alike b) :
  a.current.active = b.current.active
  := (List.cons.inj alike).1

theorem enter {a b : Blocks} (alike : a.Alike b) (active : Bool) :
  (a.enter active).Alike (b.enter active)
  := by
  rw [Alike, toList_enter, toList_enter, List.map_cons, List.map_cons, alike]

/-- Of blocks that are alike both leave the current one, or only the root is open in both. -/
theorem leave {a b : Blocks} (alike : a.Alike b) :
  (a.leave? = none ∧ b.leave? = none) ∨ ∃ closed rest closed' rest',
    a.leave? = some (closed, rest) ∧ b.leave? = some (closed', rest') ∧ rest.Alike rest'
  := by
  have hdepth : a.depth = b.depth := by
    have hlength := congrArg List.length alike
    simpa [toList, depth] using hlength
  cases ha : a.leave? with
  | none =>
    left
    use rfl
    apply leave?_eq_none_iff.mpr
    rw [← hdepth]
    apply leave?_eq_none_iff.mp ha
  | some left =>
    right
    obtain ⟨closed, rest⟩ := left
    cases hb : b.leave? with
    | none =>
      rw [depth_of_leave? ha, leave?_eq_none_iff.mp hb] at hdepth
      cases hdepth
    | some left' =>
      obtain ⟨closed', rest'⟩ := left'
      use closed, rest, closed', rest', rfl, rfl
      rw [Alike, toList_eq_of_leave? ha, toList_eq_of_leave? hb] at alike
      apply (List.cons.inj alike).2

end Alike

end Blocks

/-- The same components are waiting, the host is in the same state, and the blocks are alike. -/
structure Machine.Alike (m n : Machine σ) : Prop where
  pending : m.pending = n.pending
  state : m.state = n.state
  blocks : m.blocks.Alike n.blocks

/-- Two runs stop for the same reason, at places that `R` relates. -/
inductive Halt.Alike (R : Position → Position → Prop) : Halt → Halt → Prop
  | aborted : Alike R .aborted .aborted
  | malformed (kind : Malformation) {p q : Position} (hplace : R p q) :
    Alike R (.failed (.malformed kind p)) (.failed (.malformed kind q))
  | undefined (name : String) {p q : Position} (hplace : R p q) :
    Alike R (.failed (.undefined name p)) (.failed (.undefined name q))

/-- What a token does to two machines is alike: the machines after it, what passes between run
and host, and the reason to stop. -/
structure Effect.Alike (R : Position → Position → Prop) (a b : Effect σ) : Prop where
  machine : a.machine.Alike b.machine
  interactions : a.events.filterMap Event.interaction? = b.events.filterMap Event.interaction?
  halt : Option.Rel (Halt.Alike R) a.halt b.halt

namespace Machine.Alike

variable {R : Position → Position → Prop}

theorem push {m n : Machine σ} (alike : m.Alike n) (v : Value) :
  (m.push v).Alike (n.push v)
  where
  pending := by rw [pending_push, pending_push, alike.pending]
  state := alike.state
  blocks := alike.blocks

/-- Machines that are alike dispatch the same instruction, with the same reply. -/
theorem dispatch {m n : Machine σ} (alike : m.Alike n) (h : Host σ) (guard : Bool) :
  (m.dispatch h guard).1 = (n.dispatch h guard).1
    ∧ (m.dispatch h guard).2.Alike (n.dispatch h guard).2
  := by
  have hdispatch : h.dispatch m.state m.blocks.current.active guard m.pending
      = h.dispatch n.state n.blocks.current.active guard n.pending := by
    rw [alike.state, alike.blocks.current, alike.pending]
  constructor
  · rw [Machine.dispatch, Machine.dispatch, hdispatch]
  · constructor
    · rfl
    · rw [Machine.dispatch, Machine.dispatch, hdispatch]
    · apply alike.blocks

/-- Machines that are alike refuse a text for the same reason. -/
theorem refuse {m n : Machine σ} (alike : m.Alike n) (kind : Malformation) {p q : Position}
    (hplace : R p q) :
  Effect.Alike R (m.refuse kind p) (n.refuse kind q)
  where
  machine := alike
  interactions := rfl
  halt := .some (.malformed kind hplace)

/-- A token does the same to machines that are alike. -/
theorem step {m n : Machine σ} (alike : m.Alike n) (h : Host σ) {p q : Position}
    (hplace : R p q) (t : Token) :
  Effect.Alike R (m.step h p t) (n.step h q t)
  := by
  have hassembling : m.assembling = n.assembling := by
    rw [assembling, alike.pending, assembling]
  cases t with
  | word text => exact ⟨alike.push _, rfl, .none⟩
  | literal text => exact ⟨alike.push _, rfl, .none⟩
  | reference name =>
    simp only [Machine.step, alike.state]
    split
    · exact ⟨alike.push _, rfl, .none⟩
    · exact ⟨alike, rfl, .some (.undefined name hplace)⟩
  | stop =>
    obtain ⟨hd, hnext⟩ := alike.dispatch h false
    simp only [Machine.step, hd]
    refine ⟨hnext, rfl, ?_⟩
    split
    · exact .some .aborted
    · exact .none
  | enter =>
    obtain ⟨hd, hnext⟩ := alike.dispatch h true
    simp only [Machine.step, hassembling, hd]
    split
    · exact ⟨⟨hnext.pending, hnext.state, hnext.blocks.enter _⟩, rfl, .none⟩
    · apply alike.refuse _ hplace
  | leave =>
    simp only [Machine.step]
    rcases alike.blocks.leave with ⟨hm, hn⟩ | ⟨closed, rest, closed', rest', hm, hn, hrest⟩
    · rw [hm, hn]
      apply alike.refuse _ hplace
    · rw [hm, hn]
      exact ⟨⟨alike.pending, alike.state, hrest⟩, rfl, .none⟩
  | comment =>
    simp only [Machine.step, hassembling]
    split
    · apply alike.refuse _ hplace
    · exact ⟨alike, rfl, .none⟩

end Machine.Alike

/-! ### Runs that mirror each other -/

namespace Scan

/-- The run `s` mirrors the run `t`, which began later: both have read alike and act alike, at
places that `R` relates, and all that passed between `s` and the host is what had passed before
`t` began and what passed between `t` and the host. -/
structure Mirrors (R : Position → Position → Prop) (earlier : List Interaction) (s t : Scan σ) :
    Prop where
  lexer : s.lexer = t.lexer
  machine : s.machine.Alike t.machine
  place : R s.place t.place
  interactions : s.interactions = earlier ++ t.interactions
  halt : Option.Rel (Halt.Alike R) s.halt t.halt

namespace Mirrors

variable {R : Position → Position → Prop} {earlier : List Interaction}

/-- Both runs go on, or both have stopped. -/
theorem halt_cases {s t : Scan σ} (mirrors : Mirrors R earlier s t) :
  (s.halt = none ∧ t.halt = none) ∨ s.halt.isSome ∧ t.halt.isSome
  := by
  have hhalt := mirrors.halt
  generalize s.halt = hs at hhalt
  generalize t.halt = ht at hhalt
  cases hhalt with
  | none => exact .inl ⟨rfl, rfl⟩
  | some _ => exact .inr ⟨rfl, rfl⟩

theorem carryOut (h : Host σ) {s t : Scan σ} (mirrors : Mirrors R earlier s t) (token : Token) :
  Mirrors R earlier (s.carryOut h token) (t.carryOut h token)
  := by
  rcases mirrors.halt_cases with ⟨hs, ht⟩ | ⟨hs, ht⟩
  · have alike := mirrors.machine.step h mirrors.place token
    have hinteractions := mirrors.interactions
    rw [carryOut_of_running h hs, carryOut_of_running h ht]
    constructor
    · apply mirrors.lexer
    · apply alike.machine
    · apply mirrors.place
    · simp only [Scan.interactions, events] at hinteractions ⊢
      simp [hinteractions, alike.interactions]
    · apply alike.halt
  · rw [carryOut_of_halt h hs, carryOut_of_halt h ht]
    apply mirrors

theorem foldl_carryOut (h : Host σ) (tokens : List Token) {s t : Scan σ}
    (mirrors : Mirrors R earlier s t) :
  Mirrors R earlier (tokens.foldl (Scan.carryOut h) s) (tokens.foldl (Scan.carryOut h) t)
  := by
  induction tokens generalizing s t with
  | nil => apply mirrors
  | cons token rest ih => apply ih (mirrors.carryOut h token)

/-- The text of a run is refused if that of the run it mirrors is. -/
theorem accepted_iff {s t : Scan σ} (mirrors : Mirrors R earlier s t) :
  s.Accepted ↔ t.Accepted
  := by
  have hhalt := mirrors.halt
  rw [Accepted, Accepted]
  generalize s.halt = hs at hhalt ⊢
  generalize t.halt = ht at hhalt ⊢
  cases hhalt with
  | none => rfl
  | some alike =>
    cases alike with
    | aborted => rfl
    | malformed kind hplace => simp
    | undefined name hplace => simp

/-- Runs go on mirroring each other with the same lexer, at places that are related. -/
theorem goOn {s t : Scan σ} (mirrors : Mirrors R earlier s t) (lexer : Lexer) {p q : Position}
    (hplace : R p q) :
  Mirrors R earlier (s.goOn lexer p) (t.goOn lexer q)
  := by
  by_cases accepted : s.Accepted
  · rw [goOn_of_accepted accepted, goOn_of_accepted (mirrors.accepted_iff.mp accepted)]
    exact ⟨rfl, mirrors.machine, hplace, mirrors.interactions, mirrors.halt⟩
  · rw [goOn_of_not_accepted accepted,
      goOn_of_not_accepted (mt mirrors.accepted_iff.mpr accepted)]
    apply mirrors

/-- Runs go on mirroring each other through a character if places go on being related. -/
theorem step (h : Host σ) {s t : Scan σ} (mirrors : Mirrors R earlier s t) {c : Char}
    (hadvance : R (s.place.advance c) (t.place.advance c)) :
  Mirrors R earlier (s.step h c) (t.step h c)
  := by
  rcases mirrors.halt_cases with ⟨hs, ht⟩ | ⟨hs, ht⟩
  · cases hlex : s.lexer.step c with
    | error kind =>
      have hlex' : t.lexer.step c = .error kind := by rw [← mirrors.lexer, hlex]
      rw [step_of_error h hs hlex, step_of_error h ht hlex']
      exact ⟨mirrors.lexer, mirrors.machine, mirrors.place, mirrors.interactions,
        .some (.malformed kind mirrors.place)⟩
    | ok read =>
      obtain ⟨lexer, tokens⟩ := read
      have hlex' : t.lexer.step c = .ok (lexer, tokens) := by rw [← mirrors.lexer, hlex]
      rw [step_of_ok h hs hlex, step_of_ok h ht hlex']
      apply (mirrors.foldl_carryOut h tokens).goOn lexer hadvance
  · rw [step_of_halt h hs, step_of_halt h ht]
    apply mirrors

/-- Runs go on mirroring each other through a text if places go on being related through every
character. -/
theorem feed (h : Host σ) (hadvance : ∀ p q c, R p q → R (p.advance c) (q.advance c))
    {s t : Scan σ} (mirrors : Mirrors R earlier s t) (text : List Char) :
  Mirrors R earlier (s.feed h text) (t.feed h text)
  := by
  induction text generalizing s t with
  | nil => apply mirrors
  | cons c rest ih =>
    rw [feed_cons, feed_cons]
    apply ih (mirrors.step h (hadvance _ _ c mirrors.place))

end Mirrors

end Scan

/-! ### Results behind a text -/

/-- The error, behind a text `front`, of a text that fails in a run of its own. -/
def ScriptError.behind (front : List Char) : ScriptError → ScriptError
  | malformed kind place => malformed kind (place.behind front)
  | undefined name place => undefined name (place.behind front)

/-- The first place is the second one behind a text. -/
def Position.IsBehind (front : List Char) (p q : Position) : Prop :=
  p = q.behind front ∧ 0 < q.line

theorem Position.IsBehind.advance {front : List Char} {p q : Position}
    (hbehind : IsBehind front p q) (c : Char) :
  IsBehind front (p.advance c) (q.advance c)
  := by
  obtain ⟨rfl, hline⟩ := hbehind
  constructor
  · apply behind_advance front hline
  · rw [Position.advance]
    split
    · apply Nat.succ_pos
    · apply hline

/-- A run behind a text ends as the run that it mirrors, with errors behind the text. -/
theorem Scan.Mirrors.result {front : List Char} {earlier : List Interaction} {s t : Scan σ}
    (mirrors : Mirrors (Position.IsBehind front) earlier s t) :
  s.result = t.result.mapError (ScriptError.behind front)
  := by
  have hassembling : s.machine.assembling = t.machine.assembling := by
    rw [Machine.assembling, mirrors.machine.pending, Machine.assembling]
  have hhalt := mirrors.halt
  rw [Scan.result, Scan.result, mirrors.lexer, hassembling, mirrors.place.1]
  generalize s.halt = a at hhalt ⊢
  generalize t.halt = b at hhalt ⊢
  cases hhalt with
  | none =>
    cases t.lexer.finish t.machine.assembling with
    | none => rfl
    | some kind => rfl
  | some alike =>
    cases alike with
    | aborted => rfl
    | malformed kind hplace =>
      rw [hplace.1]
      rfl
    | undefined name hplace =>
      rw [hplace.1]
      rfl

/-! ### Runs at rest -/

/-- The run goes on and is at rest: it reads freely, nothing is waiting in the buffer, no
instruction is under way, and only the root is open. -/
structure Scan.AtRest (s : Scan σ) : Prop where
  halt : s.halt = none
  mode : s.lexer.mode = .free
  buffer : s.lexer.buffer = .empty
  pending : s.machine.pending = []
  depth : s.machine.blocks.depth = 0

/-- Blocks are entered and left above the outermost one. -/
theorem Blocks.Follows.getLast?_toList {b b' : Blocks} {braces : List Char}
    (h : Follows b braces b') :
  b'.toList.getLast? = b.toList.getLast?
  := by
  induction h with
  | nil b => rfl
  | enter active _ ih =>
    rw [ih, toList_enter]
    apply List.getLast?_cons_of_ne_nil (List.cons_ne_nil _ _)
  | leave hleave _ ih =>
    rw [ih, toList_eq_of_leave? hleave]
    symm
    apply List.getLast?_cons_of_ne_nil (List.cons_ne_nil _ _)

/-- At rest only the root is open, and it is active. -/
theorem Host.alike_start_of_atRest (h : Host σ) (s : σ) {text : String}
    (rest : (h.scan s text).AtRest) :
  (h.scan s text).machine.blocks.Alike .start
  := by
  -- The blocks may have been entered and left many times, but never the root.
  have hlast := (follows_scan h s text).getLast?_toList
  have houter : (h.scan s text).machine.blocks.outer = [] := List.length_eq_zero_iff.mp rest.depth
  rw [Blocks.toList, houter] at hlast
  have hroot : (h.scan s text).machine.blocks.current = Block.root := Option.some.inj hlast
  rw [Blocks.Alike, Blocks.toList, houter, hroot]
  rfl

/-- A run at rest mirrors the beginning of another run. -/
theorem Host.mirrors_start_of_atRest (h : Host σ) (s : σ) {p : String}
    (rest : (h.scan s p).AtRest) :
  Scan.Mirrors (Position.IsBehind p.toList) (h.scan s p).interactions (h.scan s p)
    (Scan.start (h.scan s p).state)
  := by
  constructor
  · have hlexer : (h.scan s p).lexer = ⟨.free, .empty⟩ := by rw [← rest.mode, ← rest.buffer]
    apply hlexer
  · exact ⟨rest.pending, rfl, alike_start_of_atRest h s rest⟩
  · have hplace : (h.scan s p).place = Position.start.after p.toList := Scan.place_feed h rest.halt
    rw [← Position.behind_start] at hplace
    exact ⟨hplace, Nat.zero_lt_one⟩
  · have hnone : (Scan.start (h.scan s p).state).interactions = [] := rfl
    rw [hnone, List.append_nil]
  · rw [rest.halt]
    exact .none

/-! ### Sequences -/

/-- Scripts follow one another. If the run of `p` has come to rest, then the run of `p` and `q`
does what the run of `p` does and then what a run of `q` does that begins in the state of the host
after `p`; it leaves the host in the same state and has the same result. An error has the same
kind or name. Its line is larger by the number of line feeds in `p`, and on the first line of `q`
its column is larger by the number of characters after the last of them. -/
theorem Host.scan_append_of_atRest (h : Host σ) (s : σ) (p q : String)
    (rest : (h.scan s p).AtRest) :
  (h.scan s (p ++ q)).interactions
      = (h.scan s p).interactions ++ (h.scan (h.scan s p).state q).interactions
    ∧ (h.scan s (p ++ q)).state = (h.scan (h.scan s p).state q).state
    ∧ (h.scan s (p ++ q)).result
      = (h.scan (h.scan s p).state q).result.mapError (ScriptError.behind p.toList)
  := by
  have mirrors := (mirrors_start_of_atRest h s rest).feed h (fun _ _ c hbehind => hbehind.advance c)
    q.toList
  rw [scan_append]
  exact ⟨mirrors.interactions, mirrors.machine.state, mirrors.result⟩

/-- The host counts the instructions that it executes. The second script fails on its first line,
three columns behind the last line of the first one. -/
theorem Host.scan_append_of_atRest_count :
  let h : Host Nat :=
    ⟨id, fun _ _ => none, fun n _ => ({ result := .bool true }, n + 1)⟩
  let p := "a \x7b b; \x7d\nc; "
  (h.scan 0 p).AtRest ∧ (h.scan 0 p).state = 3
    ∧ (h.scan 3 "d; \x7d").result = .error (.malformed .closeWithoutBlock ⟨1, 4⟩)
    ∧ (h.scan 0 (p ++ "d; \x7d")).result = .error (.malformed .closeWithoutBlock ⟨2, 7⟩)
  := by
  intro h p
  have rest : (h.scan 0 p).AtRest := by
    constructor
    · decide +kernel
    · decide +kernel
    · decide +kernel
    · apply Machine.assembling_eq_false_iff.mp
      decide +kernel
    · decide +kernel
  have hstate : (h.scan 0 p).state = 3 := by decide +kernel
  have hhalt : (h.scan 3 "d; \x7d").halt
      = some (.failed (.malformed .closeWithoutBlock ⟨1, 4⟩)) := by decide +kernel
  have hsecond : (h.scan 3 "d; \x7d").result = .error (.malformed .closeWithoutBlock ⟨1, 4⟩) := by
    rw [Scan.result, hhalt]
  have hplace : Position.behind p.toList ⟨1, 4⟩ = ⟨2, 7⟩ := by decide +kernel
  have hresult := (scan_append_of_atRest h 0 p "d; \x7d" rest).2.2
  rw [hstate, hsecond] at hresult
  refine ⟨rest, hstate, hsecond, hresult.trans ?_⟩
  apply congrArg (fun place => Except.error (ScriptError.malformed .closeWithoutBlock place)) hplace

end GuardedScript
