import GuardedScript.Proofs.BlockStack

/-!
# Lines of a log

What a line of a log is about can be told from its first words: an instruction that the host
executes, its result, an instruction that is passed over, a block that is entered or left.

The lines about instructions and results are read off in pairs. The lines about blocks nest as the
blocks do: a line about a block that is left closes the latest line about a block that was entered
and is still open. So from what has been logged so far it can be told which blocks are open.
-/

namespace GuardedScript

namespace Log

/-! ### Lines -/

/-- What a line can be about. -/
inductive Kind
  /-- An instruction that the host executes. -/
  | call
  /-- The result of an instruction. -/
  | result
  /-- An instruction that is passed over. -/
  | skip
  /-- A block that is entered. -/
  | enter
  /-- A block that is left. -/
  | close
deriving DecidableEq

/-- The words with which lines begin, and what those are about. -/
def openings : List (String × Kind) :=
  [("GScript EXEC: ", .call), ("GScript EXEC/CONDITIONAL: ", .call), (" RET --> ", .result),
    ("GScript EXEC/SKIP: ", .skip), ("GScript CNTX: <--- Enter [", .enter),
    ("GScript CNTX: ---> Close [", .close)]

/-- What a line is about, told from its first words. -/
def Entry.kind? (e : Entry) : Option Kind :=
  (openings.find? fun words => words.1.toList.isPrefixOf e.message.toList).map Prod.snd

/-- The line about an instruction that the host executes, as a guard or not. -/
def callLine (components : List Value) (guard : Bool) : Entry :=
  ⟨.debug, .dispatch, (if guard then "GScript EXEC/CONDITIONAL: " else "GScript EXEC: ")
    ++ (Value.arr components).toText⟩

/-- The line about the result of an instruction. -/
def resultLine (result : Value) : Entry :=
  ⟨.debug, .dispatch, " RET --> " ++ result.toText⟩

/-- The line about an instruction that is passed over. -/
def skipLine (components : List Value) : Entry :=
  ⟨.debug, .dispatch, "GScript EXEC/SKIP: " ++ (Value.arr components).toText⟩

/-- The line about a block that is entered at a depth. -/
def enterLine (block : Block) (depth : Nat) : Entry :=
  ⟨.debug, .blocks,
    s!"GScript CNTX: <--- Enter [{block.id}] depth {depth} - Activated: {block.active}"⟩

/-- The line about a block that is left for the one around it. -/
def closeLine (closed current : Block) : Entry :=
  ⟨.debug, .blocks,
    s!"GScript CNTX: ---> Close [{closed.id}], return to [{current.id}] - Activated: {current.active}"⟩

/-- The warning that the script was stopped. -/
def abortLine : Entry :=
  ⟨.warn, .dispatch, "GScript: Abort script execution"⟩

@[simp]
theorem kind?_callLine (components : List Value) (guard : Bool) :
  (callLine components guard).kind? = some .call
  := by
  cases guard with
  | true =>
    rw [Entry.kind?, callLine, String.toList_append]
    rfl
  | false =>
    rw [Entry.kind?, callLine, String.toList_append]
    rfl

@[simp]
theorem kind?_resultLine (result : Value) :
  (resultLine result).kind? = some .result
  := by
  rw [Entry.kind?, resultLine, String.toList_append]
  rfl

@[simp]
theorem kind?_skipLine (components : List Value) :
  (skipLine components).kind? = some .skip
  := by
  rw [Entry.kind?, skipLine, String.toList_append]
  rfl

@[simp]
theorem kind?_enterLine (block : Block) (depth : Nat) :
  (enterLine block depth).kind? = some .enter
  := by
  simp only [Entry.kind?, enterLine, String.toList_append]
  rfl

@[simp]
theorem kind?_closeLine (closed current : Block) :
  (closeLine closed current).kind? = some .close
  := by
  simp only [Entry.kind?, closeLine, String.toList_append]
  rfl

/-- Nothing is found in a log where no line is of the kind. -/
theorem filter_kind?_eq_nil {log : List Entry} {kind : Kind}
    (h : ∀ e ∈ log, e.kind? ≠ some kind) :
  log.filter (fun e => e.kind? = some kind) = []
  := by
  apply List.filter_eq_nil_iff.mpr
  intro e he
  simp [h e he]

/-! ### Instructions and their results -/

/-- The lines about instructions that the host executes, each with the line directly behind it. -/
def answers : List Entry → List (Entry × Option Entry)
  | [] => []
  | e :: rest => if e.kind? = some .call then (e, rest.head?) :: answers rest else answers rest

/-- Lines about other things do not matter. -/
theorem answers_append {front : List Entry} (hfront : ∀ e ∈ front, e.kind? ≠ some .call)
    (rest : List Entry) :
  answers (front ++ rest) = answers rest
  := by
  induction front with
  | nil => rfl
  | cons e front ih =>
    obtain ⟨he, hfront⟩ := List.forall_mem_cons.mp hfront
    rw [List.cons_append, answers, if_neg he, ih hfront]

end Log

/-- The lines about an instruction that the host has executed: the one about the instruction, and
directly behind it the one about the result. -/
def Interaction.answer? : Interaction → Option (Log.Entry × Option Log.Entry)
  | lookup _ _ => none
  | call components guard reply =>
    some (Log.callLine components guard, some (Log.resultLine reply.result))

/-- The line about the result of an instruction that the host has executed. -/
def Interaction.resultLine? : Interaction → Option Log.Entry
  | lookup _ _ => none
  | call _ _ reply => some (Log.resultLine reply.result)

namespace Dispatch

/-- What the host has logged. -/
def notes : Dispatch → List Log.Entry
  | blank => []
  | skipped _ => []
  | called _ _ reply => reply.notes

/-- The line about an instruction without components is of no kind. -/
theorem kind?_of_mem_log_blank {e : Log.Entry} (he : e ∈ blank.log) :
  e.kind? = none
  := by
  obtain rfl := List.mem_singleton.mp he
  rfl

/-- What is logged about an instruction that is passed over. -/
theorem log_skipped (components : List Value) :
  (skipped components).log = [Log.skipLine components]
  := by
  rfl

/-- What is logged about an instruction that the host executes and logs nothing about. -/
theorem log_called (components : List Value) (guard : Bool) {reply : Reply}
    (quiet : reply.notes = []) :
  (called components guard reply).log
    = Log.callLine components guard :: Log.resultLine reply.result ::
      if reply.abort then [abortNote guard] else []
  := by
  rw [log, quiet]
  cases guard with
  | true => rfl
  | false => rfl

theorem kind?_abortNote (guard : Bool) :
  (abortNote guard).kind? = none
  := by
  cases guard with
  | true => rfl
  | false => rfl

/-- Behind the result there is at most the note that the host asked for a stop. -/
theorem kind?_of_mem_abortNote {guard abort : Bool} {e : Log.Entry}
    (he : e ∈ if abort then [abortNote guard] else []) :
  e.kind? = none
  := by
  split at he
  · obtain rfl := List.mem_singleton.mp he
    apply kind?_abortNote
  · cases he

/-- The lines about an instruction that the host executes. -/
theorem mem_log_called {components : List Value} {guard : Bool} {reply : Reply}
    (quiet : reply.notes = []) {e : Log.Entry} (he : e ∈ (called components guard reply).log) :
  e = Log.callLine components guard ∨ e = Log.resultLine reply.result ∨ e.kind? = none
  := by
  rw [log_called components guard quiet] at he
  rcases List.mem_cons.mp he with hcall | he
  · apply Or.inl hcall
  · right
    rcases List.mem_cons.mp he with hresult | he
    · apply Or.inl hresult
    · apply Or.inr (kind?_of_mem_abortNote he)

/-- No line about an instruction is about a block. -/
theorem kind?_of_mem_log {d : Dispatch} (quiet : d.notes = []) {e : Log.Entry} (he : e ∈ d.log) :
  e.kind? ≠ some .enter ∧ e.kind? ≠ some .close
  := by
  cases d with
  | blank => simp [kind?_of_mem_log_blank he]
  | skipped components =>
    rw [log_skipped] at he
    obtain rfl := List.mem_singleton.mp he
    simp
  | called components guard reply =>
    rcases mem_log_called quiet he with rfl | rfl | hnone
    · simp
    · simp
    · simp [hnone]

end Dispatch

namespace Event

/-- What the host has logged. -/
def notes : Event → List Log.Entry
  | dispatched d => d.notes
  | _ => []

theorem log_entered (block : Block) (depth : Nat) :
  (entered block depth).log = [Log.enterLine block depth]
  := by
  rfl

theorem log_left (closed current : Block) :
  (left closed current).log = [Log.closeLine closed current]
  := by
  rfl

/-- An event logs what passes between the run and its host, as far as instructions go. -/
theorem lines_of_quiet {e : Event} (quiet : e.notes = []) (rest : List Log.Entry) :
  Log.answers (e.log ++ rest)
      = (e.interaction?.bind Interaction.answer?).toList ++ Log.answers rest
    ∧ e.log.filter (fun line => line.kind? = some .result)
      = (e.interaction?.bind Interaction.resultLine?).toList
  := by
  cases e with
  | word text => exact ⟨rfl, rfl⟩
  | literal text => exact ⟨rfl, rfl⟩
  | lookup name value? => exact ⟨rfl, rfl⟩
  | entered block depth =>
    rw [log_entered]
    exact ⟨Log.answers_append (by simp) rest, by simp [interaction?]⟩
  | left closed current =>
    rw [log_left]
    exact ⟨Log.answers_append (by simp) rest, by simp [interaction?]⟩
  | dispatched d =>
    cases d with
    | blank =>
      constructor
      · apply Log.answers_append
        intro e he
        simp [Dispatch.kind?_of_mem_log_blank he]
      · apply Log.filter_kind?_eq_nil
        intro e he
        simp [Dispatch.kind?_of_mem_log_blank he]
    | skipped components =>
      rw [log, Dispatch.log_skipped]
      exact ⟨Log.answers_append (by simp) rest, by simp [interaction?]⟩
    | called components guard reply =>
      have hcall : Log.answers ((if reply.abort then [Dispatch.abortNote guard] else []) ++ rest)
          = Log.answers rest := by
        apply Log.answers_append
        intro e he
        simp [Dispatch.kind?_of_mem_abortNote he]
      have hresult : (if reply.abort then [Dispatch.abortNote guard] else []).filter
          (fun line => line.kind? = some .result) = [] := by
        apply Log.filter_kind?_eq_nil
        intro e he
        simp [Dispatch.kind?_of_mem_abortNote he]
      rw [log, Dispatch.log_called components guard quiet]
      constructor
      · simp [Log.answers, hcall, interaction?, Interaction.answer?]
      · rw [List.filter_cons_of_neg (by simp), List.filter_cons_of_pos (by simp), hresult]
        rfl

end Event

/-- The lines about instructions that are executed, and about their results, are in order what has
passed between the run and its host. -/
theorem Log.lines_of_events {events : List Event} (quiet : ∀ e ∈ events, e.notes = []) :
  answers (events.flatMap Event.log)
      = (events.filterMap Event.interaction?).filterMap Interaction.answer?
    ∧ (events.flatMap Event.log).filter (fun line => line.kind? = some .result)
      = (events.filterMap Event.interaction?).filterMap Interaction.resultLine?
  := by
  induction events with
  | nil => exact ⟨rfl, rfl⟩
  | cons e events ih =>
    obtain ⟨he, quiet⟩ := List.forall_mem_cons.mp quiet
    obtain ⟨hanswers, hresults⟩ := ih quiet
    obtain ⟨hanswer, hresult⟩ := Event.lines_of_quiet he (events.flatMap Event.log)
    rw [List.flatMap_cons, hanswer, List.filter_append, hresult, hanswers, hresults,
      List.filterMap_cons]
    cases e.interaction? with
    | none => exact ⟨rfl, rfl⟩
    | some i =>
      rw [List.filterMap_cons, List.filterMap_cons]
      cases i with
      | lookup name value? => exact ⟨rfl, rfl⟩
      | call components guard reply => exact ⟨rfl, rfl⟩

/-! ### Blocks in the log -/

namespace Log

/-- The line is about a block that is entered. -/
def Entry.isEnter (e : Entry) : Bool :=
  e.kind? = some .enter

/-- The lines about blocks that were entered and that no line has closed yet, latest first. -/
def unclosed (log : List Entry) : List Entry :=
  log.foldl
    (fun waiting e =>
      match e.kind? with
      | some .enter => e :: waiting
      | some .close => waiting.tail
      | _ => waiting)
    []

/-- What a line about a block says after the lines `before`. One about a block that is entered
gives it the next number, and as its depth the number of blocks that are open with it. One about a
block that is left closes the latest line that is still open, and returns to the block of the one
around it, or to the root if there is none. -/
def Nests (before : List Entry) (e : Entry) : Prop :=
  (e.kind? = some .enter → ∃ active,
      e = enterLine ⟨before.countP Entry.isEnter + 1, active⟩ ((unclosed before).length + 1))
    ∧ (e.kind? = some .close → ∃ closed depth outer parent,
      unclosed before = enterLine closed depth :: outer ∧ e = closeLine closed parent
        ∧ (outer = [] ∧ parent = Block.root ∨ ∃ depth rest, outer = enterLine parent depth :: rest))

/-- The lines that entering blocks has left in the log, where `blocks` are open, innermost first,
and the last of them is the root. -/
def enterLines : List Block → List Entry
  | [] => []
  | [_] => []
  | block :: parent :: outer =>
    enterLine block (outer.length + 1) :: enterLines (parent :: outer)

/-- As many lines are left as blocks are open inside the root. -/
theorem length_enterLines (block : Block) (outer : List Block) :
  (enterLines (block :: outer)).length = outer.length
  := by
  induction outer generalizing block with
  | nil => rfl
  | cons parent outer ih => rw [enterLines, List.length_cons, ih, List.length_cons]

/-- The log tells of the blocks that are open. -/
structure Tracks (log : List Entry) (b : Blocks) : Prop where
  unclosed : unclosed log = enterLines b.toList
  numbered : log.countP Entry.isEnter + 1 = b.nextId
  root : b.toList.getLast? = some Block.root
  nests : ∀ before e after, log = before ++ e :: after → Nests before e

/-- What holds of every line after those before it holds of one more. -/
theorem nests_concat {log : List Entry} {e : Entry}
    (nests : ∀ before e after, log = before ++ e :: after → Nests before e)
    (hlast : Nests log e) (before : List Entry) (e' : Entry) (after : List Entry)
    (hsplit : log ++ [e] = before ++ e' :: after) :
  Nests before e'
  := by
  rcases List.eq_nil_or_concat after with rfl | ⟨after, last, rfl⟩
  · obtain ⟨rfl, hcons⟩ := List.append_inj' hsplit rfl
    cases hcons
    apply hlast
  · rw [List.concat_eq_append, ← List.cons_append, ← List.append_assoc] at hsplit
    apply nests before e' after (List.append_inj' hsplit rfl).1

theorem unclosed_concat (log : List Entry) (e : Entry) :
  unclosed (log ++ [e])
    = match e.kind? with
      | some .enter => e :: unclosed log
      | some .close => (unclosed log).tail
      | _ => unclosed log
  := by
  rw [unclosed, List.foldl_append]
  rfl

namespace Tracks

theorem start :
  Tracks [] Blocks.start
  := by
  refine ⟨rfl, rfl, rfl, ?_⟩
  intro before e after hnil
  cases before with
  | nil => cases hnil
  | cons _ _ => cases hnil

/-- A line that is not about a block. -/
theorem concat {log : List Entry} {b : Blocks} (tracks : Tracks log b) {e : Entry}
    (henter : e.kind? ≠ some .enter) (hclose : e.kind? ≠ some .close) :
  Tracks (log ++ [e]) b
  := by
  refine ⟨?_, ?_, tracks.root, nests_concat tracks.nests ⟨?_, ?_⟩⟩
  · rw [unclosed_concat, ← tracks.unclosed]
    split
    · contradiction
    · contradiction
    · rfl
  · rw [← tracks.numbered, List.countP_append, List.countP_singleton]
    simp [Entry.isEnter, henter]
  · intro hkind
    contradiction
  · intro hkind
    contradiction

/-- Lines that are not about blocks. -/
theorem append {log : List Entry} {b : Blocks} (tracks : Tracks log b) {new : List Entry}
    (hnew : ∀ e ∈ new, e.kind? ≠ some .enter ∧ e.kind? ≠ some .close) :
  Tracks (log ++ new) b
  := by
  induction new generalizing log with
  | nil =>
    rw [List.append_nil]
    apply tracks
  | cons e new ih =>
    obtain ⟨⟨henter, hclose⟩, hnew⟩ := List.forall_mem_cons.mp hnew
    rw [List.append_cons]
    apply ih (tracks.concat henter hclose) hnew

/-- The line about a block that is entered. -/
theorem enter {log : List Entry} {b : Blocks} (tracks : Tracks log b) (active : Bool) :
  Tracks (log ++ [enterLine (b.enter active).current (b.enter active).depth]) (b.enter active)
  := by
  have hlength : (Log.unclosed log).length + 1 = (b.enter active).depth := by
    rw [tracks.unclosed]
    apply congrArg (· + 1) (length_enterLines b.current b.outer)
  refine ⟨?_, ?_, ?_, nests_concat tracks.nests ⟨?_, ?_⟩⟩
  · rw [unclosed_concat, kind?_enterLine, tracks.unclosed]
    rfl
  · have hline : [enterLine (b.enter active).current (b.enter active).depth].countP Entry.isEnter
        = 1 := by
      simp [Entry.isEnter]
    rw [List.countP_append, hline, tracks.numbered]
    rfl
  · rw [← tracks.root]
    apply Blocks.getLast?_move b (.enter active)
  · intro _
    use active
    rw [hlength, tracks.numbered]
    rfl
  · intro hkind
    cases hkind.symm.trans (kind?_enterLine _ _)

/-- The line about a block that is left. -/
theorem leave {log : List Entry} {b rest : Blocks} {closed : Block} (tracks : Tracks log b)
    (hleave : b.leave? = some (closed, rest)) :
  Tracks (log ++ [closeLine closed rest.current]) rest
  := by
  have hopen : Log.unclosed log
      = enterLine closed (rest.outer.length + 1) :: enterLines rest.toList := by
    rw [tracks.unclosed, Blocks.toList_eq_of_leave? hleave]
    rfl
  have hroot : rest.toList.getLast? = some Block.root := by
    rw [← tracks.root, ← Blocks.getLast?_move b .leave, Blocks.move_leave hleave]
  refine ⟨?_, ?_, hroot, nests_concat tracks.nests ⟨?_, ?_⟩⟩
  · rw [unclosed_concat, kind?_closeLine, hopen]
    rfl
  · rw [Blocks.nextId_of_leave? hleave, ← tracks.numbered, List.countP_append,
      List.countP_singleton]
    simp [Entry.isEnter]
  · intro hkind
    cases hkind.symm.trans (kind?_closeLine _ _)
  · intro _
    refine ⟨closed, _, _, rest.current, hopen, rfl, ?_⟩
    obtain ⟨current, outer, nextId⟩ := rest
    cases outer with
    | nil =>
      left
      exact ⟨rfl, Option.some.inj hroot⟩
    | cons parent outer => exact .inr ⟨_, _, rfl⟩

end Tracks

end Log

end GuardedScript
