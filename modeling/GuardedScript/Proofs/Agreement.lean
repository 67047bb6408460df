import GuardedScript.Program.Meaning
import GuardedScript.Proofs.Places

/-!
# Scripts mean what their programs mean

A scan of a written program agrees with the meaning of the program. The proof has two parts that
meet at the *tokens of a program*: the lexer reads them off every text of the program, and
carrying them out does what the meaning of the program says. That the first part goes character
by character and knows the places of the tokens makes no difference to the second, except for the
place of an error.
-/

universe u

namespace GuardedScript

variable {σ : Type u}

/-! ### The tokens of a program -/

mutual

/-- The tokens of an item. -/
inductive Item.Tokens : Item → List Token → Prop
  | instruction {components : List Component} (hne : components ≠ []) :
    Item.Tokens (.instruction components) (components.map Component.token ++ [.stop])
  | block {guard : List Component} {body : List Item} {inner : List Token} (hne : guard ≠ [])
    (hbody : Program.Tokens body inner) :
    Item.Tokens (.block guard body)
      (guard.map Component.token ++ [.enter] ++ inner ++ [.leave])

/-- The tokens of a program, with comments before, between and after the items. -/
inductive Program.Tokens : List Item → List Token → Prop
  | nil (count : Nat) : Program.Tokens [] (List.replicate count .comment)
  | cons {item : Item} {rest : List Item} {first after : List Token} (count : Nat)
    (hitem : Item.Tokens item first) (hrest : Program.Tokens rest after) :
    Program.Tokens (item :: rest) (List.replicate count .comment ++ first ++ after)

end

/-- A row has components. -/
theorem Row.ne_nil {components : List Component} {row : List Char} (h : Row components row) :
  components ≠ []
  := by
  cases h with
  | one c => apply List.cons_ne_nil
  | cons c count hrest => apply List.cons_ne_nil

mutual

/-- The lexer reads the tokens of an item off its text. -/
theorem Item.reads_tokens : {item : Item} → {text : List Char} → item.Written text →
    item.Writable → ∃ tokens, item.Tokens tokens ∧ Lexer.start.Reads text tokens .start
  | _, _, .instruction count hrow, writable => by
    exact ⟨_, .instruction hrow.ne_nil, Lexer.reads_instruction hrow writable count⟩
  | _, _, .block count hrow hbody, writable => by
    obtain ⟨hguard, hwritable⟩ := writable
    obtain ⟨inner, htokens, hinner⟩ := Program.reads_tokens hbody hwritable
    have hleave : Lexer.start.step '\x7d' = .ok (.start, [.leave]) := rfl
    have reads := ((Lexer.reads_guard hrow hguard count).append hinner).append (.single hleave)
    rw [List.append_assoc _ _ ['\x7d'], List.append_assoc _ ['\x7b']] at reads
    exact ⟨_, .block hrow.ne_nil htokens, reads⟩

/-- The lexer reads the tokens of a program off its text. -/
theorem Program.reads_tokens : {program : List Item} → {text : List Char} →
    Program.Written program text → Program.Writable program →
    ∃ tokens, Program.Tokens program tokens ∧ Lexer.start.Reads text tokens .start
  | _, _, .nil hgap, _ => by
    obtain ⟨count, reads⟩ := Lexer.reads_gap hgap
    exact ⟨_, .nil count, reads⟩
  | _, _, .cons hgap hitem hrest, writable => by
    obtain ⟨hfirst, hafter⟩ := writable
    obtain ⟨count, gap⟩ := Lexer.reads_gap hgap
    obtain ⟨first, htokens, reads⟩ := Item.reads_tokens hitem hfirst
    obtain ⟨after, htokens', reads'⟩ := Program.reads_tokens hrest hafter
    exact ⟨_, .cons count htokens htokens', (gap.append reads).append reads'⟩

end

/-! ### Components -/

/-- Every component has one value, if they have values at all. -/
theorem Component.length_resolve (h : Host σ) (s : σ) {components : List Component}
    {values : List Value} (hvalues : (resolve h s components).2 = .ok values) :
  values.length = components.length
  := by
  induction components generalizing values with
  | nil =>
    cases hvalues
    rfl
  | cons c rest ih =>
    have later {v : Value} (hmap : (resolve h s rest).2.map (v :: ·) = .ok values) :
        values.length = (c :: rest).length := by
      cases hrest : (resolve h s rest).2 with
      | error name =>
        rw [hrest] at hmap
        cases hmap
      | ok after =>
        rw [hrest] at hmap
        cases hmap
        rw [List.length_cons, List.length_cons, ih hrest]
    cases c with
    | word text => apply later hvalues
    | literal quote text => apply later hvalues
    | reference name =>
      cases hlookup : h.lookup s name with
      | none =>
        simp [resolve, hlookup] at hvalues
      | some v =>
        simp only [resolve, hlookup] at hvalues
        apply later hvalues

/-- Where there are components, there are values. -/
theorem Component.values_ne_nil {h : Host σ} {s : σ} {components : List Component}
    {asked : List Interaction} {values : List Value} (hne : components ≠ [])
    (resolved : resolve h s components = (asked, .ok values)) :
  values ≠ []
  := by
  rw [← List.length_pos_iff, length_resolve h s (congrArg Prod.snd resolved), List.length_pos_iff]
  apply hne

namespace Scan

/-- What passes between a run and its host when more happens. -/
theorem interactions_append (s : Scan σ) (lexer : Lexer) (machine : Machine σ) (place : Position)
    (halt : Option Halt) (new : List Event) :
  interactions ⟨lexer, machine, place, s.trace ++ new, halt⟩ =
    s.interactions ++ new.filterMap Event.interaction?
  := by
  apply interactions_of_events
  apply Array.toList_appendList

/-- What became of components: their values are waiting, or one of them stopped the run. -/
def Gathered (s s' : Scan σ) : Except String (List Value) → Prop
  | .ok values => s'.halt = none ∧ s'.machine.pending = s.machine.pending ++ values
  | .error name => s'.halt.map Halt.cause = some (.undefined name)

/-- From `s` to `s'` the run has resolved components. -/
structure Resolves (s s' : Scan σ) (asked : List Interaction)
    (values : Except String (List Value)) : Prop where
  state : s'.state = s.state
  blocks : s'.machine.blocks = s.machine.blocks
  interactions : s'.interactions = s.interactions ++ asked
  gathered : s.Gathered s' values

/-- A component that an event has added comes before those that are resolved. -/
theorem Resolves.push {s s' : Scan σ} (v : Value) (e : Event) {asked : List Interaction}
    {values : Except String (List Value)}
    (hrest : Resolves { s with machine := s.machine.push v, trace := s.trace ++ [e] } s' asked
      values) :
  s.Resolves s' ([e].filterMap Event.interaction? ++ asked) (values.map (v :: ·))
  := by
  obtain ⟨state, blocks, interactions, gathered⟩ := hrest
  constructor
  · apply state
  · apply blocks
  · rw [interactions, interactions_append, List.append_assoc]
  · cases values with
    | error name => apply gathered
    | ok values =>
      obtain ⟨running, pending⟩ := gathered
      use running
      rw [pending, Machine.pending_push, List.append_assoc]
      rfl

/-- The tokens of components are carried out as the components are resolved. -/
theorem resolves_components (h : Host σ) (components : List Component) {s : Scan σ}
    (running : s.halt = none) :
  s.Resolves ((components.map Component.token).foldl (carryOut h) s)
    (Component.resolve h s.state components).1 (Component.resolve h s.state components).2
  := by
  induction components generalizing s with
  | nil => exact ⟨rfl, rfl, (List.append_nil _).symm, running, (List.append_nil _).symm⟩
  | cons c rest ih =>
    rw [List.map_cons, List.foldl_cons]
    cases c with
    | word text =>
      rw [Component.token, carryOut_word h running]
      exact Resolves.push (.str text) (.word text) (ih running)
    | literal quote text =>
      rw [Component.token, carryOut_literal h running]
      exact Resolves.push (.str text) (.literal text) (ih running)
    | reference name =>
      cases hlookup : h.lookup s.state name with
      | some v =>
        rw [Component.token, carryOut_reference h running hlookup]
        simp only [Component.resolve, hlookup]
        exact Resolves.push v (.lookup name (some v)) (ih running)
      | none =>
        rw [Component.token, carryOut_reference_of_none h running hlookup,
          foldl_carryOut_of_halt h rfl]
        simp only [Component.resolve, hlookup]
        exact ⟨rfl, rfl, interactions_append .., rfl⟩

end Scan

/-! ### Ends of instructions -/

/-- What passes between the run and its host when an instruction ends. -/
def Dispatch.interactions : Dispatch → List Interaction
  | blank => []
  | skipped _ => []
  | called components guard reply => [.call components guard reply]

/-- The interactions of an instruction that ends come before those of later events. -/
theorem Dispatch.interactions_append (d : Dispatch) (later : List Event) :
  (Event.dispatched d :: later).filterMap Event.interaction? =
    d.interactions ++ later.filterMap Event.interaction?
  := by
  cases d with
  | blank => rfl
  | skipped components => rfl
  | called components guard reply => rfl

/-- An instruction whose components have values is dispatched. -/
theorem Item.run_instruction {h : Host σ} {active : Bool} {s : σ} {components : List Component}
    {asked : List Interaction} {values : List Value} (hne : values ≠ [])
    (resolved : Component.resolve h s components = (asked, .ok values)) :
  Item.run h active s (.instruction components) =
    ⟨(h.dispatch s active false values).2,
      asked ++ (h.dispatch s active false values).1.interactions,
      if (h.dispatch s active false values).1.aborts then some .aborted else none⟩
  := by
  cases active with
  | true =>
    simp [Item.run, resolved, Host.dispatch, hne, Dispatch.interactions, Dispatch.aborts]
  | false =>
    simp [Item.run, resolved, Host.dispatch, hne, Dispatch.interactions, Dispatch.aborts]

/-- A guard whose components have values is dispatched, and decides whether its block is
active. -/
theorem Item.run_block {h : Host σ} {active : Bool} {s : σ} {guard : List Component}
    {asked : List Interaction} {values : List Value} (hne : values ≠ [])
    (resolved : Component.resolve h s guard = (asked, .ok values)) (body : List Item) :
  Item.run h active s (.block guard body) =
    Passage.andThen
      ⟨(h.dispatch s active true values).2,
        asked ++ (h.dispatch s active true values).1.interactions, none⟩
      fun next => Program.run h (h.dispatch s active true values).1.truthy next body
  := by
  cases active with
  | true =>
    simp [Item.run, resolved, Host.dispatch, hne, Dispatch.interactions, Dispatch.truthy]
  | false =>
    simp [Item.run, resolved, Host.dispatch, hne, Dispatch.interactions, Dispatch.truthy]

/-! ### Parts of a run -/

/-- A block inside others can be left for them. -/
theorem Blocks.leave?_of_toList {b outer : Blocks} {inner : Block}
    (hopen : b.toList = inner :: outer.toList) :
  ∃ rest, b.leave? = some (inner, rest) ∧ rest.toList = outer.toList
  := by
  obtain ⟨current, around, nextId⟩ := b
  cases hopen
  exact ⟨_, rfl, rfl⟩

/-- Why the run of a program stopped, as a scan has it. -/
def Stop.cause : Stop → Cause
  | aborted => .aborted
  | undefined name => .undefined name

namespace Scan

/-- From `s` to `s'` the run has done what a passage says. If it goes on, then between
instructions, in the block where it was. -/
structure Performs (s s' : Scan σ) (p : Passage σ) : Prop where
  state : s'.state = p.state
  interactions : s'.interactions = s.interactions ++ p.interactions
  cause : s'.halt.map Halt.cause = p.stop.map Stop.cause
  settled : s'.halt = none →
    s'.machine.pending = [] ∧ s'.machine.blocks.toList = s.machine.blocks.toList

/-- The run has stopped if the passage says so. -/
theorem Performs.isSome_halt {s s' : Scan σ} {p : Passage σ} (performs : s.Performs s' p) :
  s'.halt.isSome = p.stop.isSome
  := by
  rw [← Option.isSome_map (f := Halt.cause), performs.cause, Option.isSome_map]

/-- A part of a run after another, unless the first one has stopped the run. -/
theorem Performs.andThen {h : Host σ} {s s' : Scan σ} {p : Passage σ} {next : σ → Passage σ}
    {tokens : List Token} (first : s.Performs s' p)
    (second : s'.halt = none → s'.Performs (tokens.foldl (carryOut h) s') (next s'.state)) :
  s.Performs (tokens.foldl (carryOut h) s') (p.andThen next)
  := by
  obtain ⟨state, interactions, stop⟩ := p
  have hhalt := first.isSome_halt
  cases stop with
  | some stop =>
    rw [foldl_carryOut_of_halt h hhalt]
    apply first
  | none =>
    have running := Option.not_isSome_iff_eq_none.mp (Bool.eq_false_iff.mp hhalt)
    have second := second running
    obtain ⟨-, hblocks⟩ := first.settled running
    rw [first.state] at second
    constructor
    · apply second.state
    · rw [second.interactions, first.interactions, List.append_assoc]
      rfl
    · apply second.cause
    · intro running'
      obtain ⟨hpending, hblocks'⟩ := second.settled running'
      exact ⟨hpending, hblocks'.trans hblocks⟩

/-- A variable without a value stops the run, whatever tokens follow. -/
theorem Resolves.performs_of_error (h : Host σ) {s s' : Scan σ} {asked : List Interaction}
    {name : String} (resolves : s.Resolves s' asked (.error name)) (tokens : List Token) :
  s.Performs (tokens.foldl (carryOut h) s') ⟨s.state, asked, some (.undefined name)⟩
  := by
  obtain ⟨state, -, interactions, cause⟩ := resolves
  have stopped : s'.halt.isSome := by
    rw [← Option.isSome_map (f := Halt.cause), cause]
    rfl
  rw [foldl_carryOut_of_halt h stopped]
  use state, interactions, cause
  intro running
  rw [running] at stopped
  cases stopped

/-- Comments between instructions do nothing. -/
theorem foldl_carryOut_comments (h : Host σ) {s : Scan σ} (running : s.halt = none)
    (idle : s.machine.pending = []) (count : Nat) :
  (List.replicate count Token.comment).foldl (carryOut h) s = s
  := by
  induction count with
  | zero => rfl
  | succ count ih =>
    rw [List.replicate_succ, List.foldl_cons,
      carryOut_comment h running (Machine.assembling_eq_false_iff.mpr idle), ih]

/-- When components are resolved, what is dispatched are their values. -/
theorem Resolves.dispatch (h : Host σ) {s s' : Scan σ} {asked : List Interaction}
    {values : List Value} (resolves : s.Resolves s' asked (.ok values))
    (idle : s.machine.pending = []) (guard : Bool) :
  s'.machine.dispatch h guard =
    let (d, next) := h.dispatch s.state s.machine.blocks.current.active guard values
    (d, ⟨[], s.machine.blocks, next⟩)
  := by
  obtain ⟨state, blocks, -, -, pending⟩ := resolves
  rw [idle, List.nil_append] at pending
  rw [Scan.state] at state
  simp only [Machine.dispatch, pending, blocks, state]

/-- What begins with components does what a passage says, if it does so once they have values,
and the passage stops where one of them has none. -/
theorem performs_components (h : Host σ) {s : Scan σ} (running : s.halt = none)
    {components : List Component} {tokens : List Token} {p : Passage σ}
    (herror : ∀ asked name, Component.resolve h s.state components = (asked, .error name) →
      p = ⟨s.state, asked, some (.undefined name)⟩)
    (hok : ∀ s' asked values, Component.resolve h s.state components = (asked, .ok values) →
      s.Resolves s' asked (.ok values) → s.Performs (tokens.foldl (carryOut h) s') p) :
  s.Performs ((components.map Component.token ++ tokens).foldl (carryOut h) s) p
  := by
  have resolves := resolves_components h components running
  rw [List.foldl_append]
  cases resolved : Component.resolve h s.state components with
  | mk asked values =>
    rw [resolved] at resolves
    cases values with
    | error name =>
      rw [herror asked name resolved]
      apply resolves.performs_of_error h
    | ok values => apply hok _ asked values resolved resolves

/-- An instruction does what it means. -/
theorem performs_instruction (h : Host σ) {s : Scan σ} (running : s.halt = none)
    (idle : s.machine.pending = []) {components : List Component} (hne : components ≠ []) :
  s.Performs ((components.map Component.token ++ [Token.stop]).foldl (carryOut h) s)
    (Item.run h s.machine.blocks.current.active s.state (.instruction components))
  := by
  apply performs_components h running
  · intro asked name resolved
    simp only [Item.run, resolved]
  · intro s' asked values resolved resolves
    obtain ⟨running', -⟩ := resolves.gathered
    rw [Item.run_instruction (Component.values_ne_nil hne resolved) resolved,
      List.foldl_cons, List.foldl_nil, carryOut_stop h running', resolves.dispatch h idle]
    generalize h.dispatch s.state s.machine.blocks.current.active false values = result
    constructor
    · rfl
    · rw [interactions_append, Dispatch.interactions_append, resolves.interactions,
        List.append_assoc, List.filterMap_nil, List.append_nil]
    · cases result.1.aborts with
      | true => rfl
      | false => rfl
    · intro _
      exact ⟨rfl, rfl⟩

/-- A block does what its guard and its body do, and is left at its end. -/
theorem Performs.leave {h : Host σ} {s g s' : Scan σ} {active : Bool} {asked : List Interaction}
    {p : Passage σ} (hblocks : g.machine.blocks = s.machine.blocks.enter active)
    (hinteractions : g.interactions = s.interactions ++ asked) (body : g.Performs s' p) :
  s.Performs (s'.carryOut h .leave) ⟨p.state, asked ++ p.interactions, p.stop⟩
  := by
  obtain ⟨state, interactions, cause, settled⟩ := body
  rw [hinteractions, List.append_assoc] at interactions
  by_cases running : s'.halt = none
  · obtain ⟨hpending, hopen⟩ := settled running
    rw [hblocks, Blocks.toList_enter] at hopen
    obtain ⟨outside, hleave, houtside⟩ := Blocks.leave?_of_toList hopen
    rw [carryOut_leave h running hleave]
    constructor
    · apply state
    · rw [interactions_append, interactions]
      apply List.append_nil
    · apply cause
    · intro _
      exact ⟨hpending, houtside⟩
  · rw [carryOut_of_halt h (Option.isSome_iff_ne_none.mpr running)]
    use state, interactions, cause
    intro running'
    apply absurd running' running

/-- From `s` to `s'` the run has entered a block behind a guard that was dispatched. -/
structure Enters (s s' : Scan σ) (asked : List Interaction) (d : Dispatch) (next : σ) : Prop where
  running : s'.halt = none
  pending : s'.machine.pending = []
  blocks : s'.machine.blocks = s.machine.blocks.enter d.truthy
  state : s'.state = next
  interactions : s'.interactions = s.interactions ++ (asked ++ d.interactions)

/-- A guard with values lets its block begin. -/
theorem Resolves.enter (h : Host σ) {s s' : Scan σ} {asked : List Interaction}
    {values : List Value} (resolves : s.Resolves s' asked (.ok values))
    (idle : s.machine.pending = []) (hne : values ≠ []) :
  s.Enters (s'.carryOut h .enter) asked
    (h.dispatch s.state s.machine.blocks.current.active true values).1
    (h.dispatch s.state s.machine.blocks.current.active true values).2
  := by
  obtain ⟨running, pending⟩ := resolves.gathered
  have assembling : s'.machine.assembling = true := by
    simp [Machine.assembling, pending, hne]
  rw [carryOut_enter h running assembling rfl, resolves.dispatch h idle, resolves.blocks]
  use running, rfl, rfl, rfl
  rw [interactions_append, Dispatch.interactions_append, resolves.interactions, List.append_assoc]
  congr 2
  apply List.append_nil

/-- A block does what it means, if its body does. -/
theorem performs_block (h : Host σ) {s : Scan σ} (running : s.halt = none)
    (idle : s.machine.pending = []) {guard : List Component} (hne : guard ≠ [])
    {body : List Item} {inner : List Token}
    (hbody : ∀ g : Scan σ, g.halt = none → g.machine.pending = [] →
      g.Performs (inner.foldl (carryOut h) g)
        (Program.run h g.machine.blocks.current.active g.state body)) :
  s.Performs ((guard.map Component.token ++ [Token.enter] ++ inner ++ [Token.leave]).foldl
      (carryOut h) s)
    (Item.run h s.machine.blocks.current.active s.state (.block guard body))
  := by
  rw [List.append_assoc, List.append_assoc]
  apply performs_components h running
  · intro asked name resolved
    simp only [Item.run, resolved]
  · intro s' asked values resolved resolves
    have hvalues := Component.values_ne_nil hne resolved
    have enters := resolves.enter h idle hvalues
    have performs := hbody _ enters.running enters.pending
    rw [enters.blocks, enters.state] at performs
    rw [Item.run_block hvalues resolved, List.foldl_append, List.foldl_cons, List.foldl_nil,
      List.foldl_append, List.foldl_cons, List.foldl_nil]
    apply performs.leave enters.blocks enters.interactions

end Scan

/-! ### Programs -/

mutual

/-- The tokens of an item do what the item means. -/
theorem Item.Tokens.performs (h : Host σ) : {item : Item} → {tokens : List Token} →
    item.Tokens tokens → (s : Scan σ) → s.halt = none → s.machine.pending = [] →
    s.Performs (tokens.foldl (Scan.carryOut h) s)
      (item.run h s.machine.blocks.current.active s.state)
  | _, _, .instruction hne, s, running, idle => by
    apply s.performs_instruction h running idle hne
  | _, _, .block hne hbody, s, running, idle => by
    apply s.performs_block h running idle hne
    apply Program.Tokens.performs h hbody

/-- The tokens of a program do what the program means. -/
theorem Program.Tokens.performs (h : Host σ) : {program : List Item} → {tokens : List Token} →
    Program.Tokens program tokens → (s : Scan σ) → s.halt = none → s.machine.pending = [] →
    s.Performs (tokens.foldl (Scan.carryOut h) s)
      (Program.run h s.machine.blocks.current.active s.state program)
  | _, _, .nil count, s, running, idle => by
    rw [Scan.foldl_carryOut_comments h running idle]
    use rfl, (List.append_nil _).symm, congrArg (Option.map Halt.cause) running
    intro _
    exact ⟨idle, rfl⟩
  | _, _, .cons count hitem hrest, s, running, idle => by
    rw [List.foldl_append, List.foldl_append, Scan.foldl_carryOut_comments h running idle]
    have first := Item.Tokens.performs h hitem s running idle
    apply first.andThen
    intro running'
    obtain ⟨idle', hblocks⟩ := first.settled running'
    rw [← (List.cons.inj hblocks).1]
    apply Program.Tokens.performs h hrest _ running' idle'

end

/-! ### Agreement -/

/-- How a run ends that has stopped or not. An error is reported where the scan has come to. -/
def Stop.Ends (result : Except ScriptError Outcome) : Option Stop → Prop
  | none => result = .ok .completed
  | some .aborted => result = .ok .aborted
  | some (.undefined name) => ∃ place, result = .error (.undefined name place)

namespace Scan

/-- A run that has acted alike has done the same. -/
theorem Performs.congr {s s' t : Scan σ} {p : Passage σ} (performs : s.Performs s' p)
    (alike : t.ActsAlike s') :
  s.Performs t p
  where
  state := by rw [← performs.state, Scan.state, alike.machine, Scan.state]
  interactions := by
    rw [← performs.interactions, Scan.interactions, alike.events, Scan.interactions]
  cause := alike.cause.trans performs.cause
  settled := by
    rw [alike.running_iff, alike.machine]
    apply performs.settled

/-- A run that has read its text ends as the passage says. -/
theorem Performs.ends {s s' : Scan σ} {p : Passage σ} (performs : s.Performs s' p)
    (hlexer : s'.halt = none → s'.lexer = .start) :
  Stop.Ends s'.result p.stop
  := by
  have cause := performs.cause
  cases hstop : p.stop with
  | none =>
    rw [hstop] at cause
    have running := Option.map_eq_none_iff.mp cause
    have idle := Machine.assembling_eq_false_iff.mpr (performs.settled running).1
    rw [Stop.Ends, result, running, hlexer running, idle]
    rfl
  | some stop =>
    rw [hstop] at cause
    obtain ⟨reason, hhalt, hcause⟩ := Option.map_eq_some_iff.mp cause
    rw [result, hhalt]
    cases stop with
    | aborted =>
      rw [Halt.eq_aborted_of_cause hcause]
      rfl
    | undefined name =>
      obtain ⟨place, rfl⟩ := Halt.eq_undefined_of_cause hcause
      exact ⟨place, rfl⟩

end Scan

/-- A scan of a program, however it is written, does what the program means: what passes between
the run and its host is the same, the host comes to the same state, and the run ends the same
way. -/
theorem Host.scan_written (h : Host σ) (s : σ) {program : List Item} {text : String}
    (writable : Program.Writable program) (written : Program.Written program text.toList) :
  (h.scan s text).interactions = (Program.run h true s program).interactions
    ∧ (h.scan s text).state = (Program.run h true s program).state
    ∧ Stop.Ends (h.scan s text).result (Program.run h true s program).stop
  := by
  obtain ⟨tokens, htokens, reads⟩ := Program.reads_tokens written writable
  obtain ⟨alike, hlexer⟩ := Scan.feed_of_reads h (s := Scan.start s) rfl reads
  have performs := (htokens.performs h (Scan.start s) rfl rfl).congr alike
  exact ⟨performs.interactions, performs.state, performs.ends hlexer⟩

/-- A block whose guard holds a quote, with a comment before it and an instruction after it. -/
theorem Host.scan_written_block :
  let h := Host.fixed (some (.str "v")) { result := .bool true }
  let program : List Item :=
    [.block [.word "if", .literal .double "a\"b"] [.instruction [.word "say", .reference "x"]],
      .instruction [.word "end"]]
  let text := "# note\nif  \"a\\\"b\" \x7b say $x; \x7d end;"
  Program.Writable program ∧ Program.Written program text.toList
    ∧ (h.scan () text).interactions = (Program.run h true () program).interactions
    ∧ (h.scan () text).state = (Program.run h true () program).state
    ∧ Stop.Ends (h.scan () text).result (Program.run h true () program).stop
  := by
  intro h program text
  have writable : Program.Writable program := by decide +kernel
  have gap : Gap ('#' :: (" note".toList ++ '\n' :: [])) := .comment (by decide) .nil
  have body := Program.Written.cons (.space .nil)
    (.instruction 0 (.cons (.word "say") 0 (.one (.reference "x")))) (.nil (.space .nil))
  have last := Program.Written.cons (.space .nil)
    (.instruction 0 (.one (.word "end"))) (.nil .nil)
  have guard := Row.cons (.word "if") 1 (.one (.literal .double "a\"b"))
  have written : Program.Written program text.toList := by
    apply Eq.mp (congrArg (Program.Written program) _) (.cons gap (.block 0 guard body) last)
    decide +kernel
  exact ⟨writable, written, scan_written h () writable written⟩

end GuardedScript
