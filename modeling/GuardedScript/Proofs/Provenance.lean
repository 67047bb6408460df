import GuardedScript.Proofs.Runs
import GuardedScript.Workspace

/-!
# Where values come from

A run has its values from the text, which gives strings, and from the host. What is true of all
strings and of all values that the host gives is therefore true of the components of every
instruction.

A workspace makes truth values and `null`. All else that is in its variables and its transcript was
given to it: strings of the script, and the values of the bindings with which it began.
-/

universe u

namespace GuardedScript

variable {σ : Type u}

/-! ### Values of a run -/

/-- The strings have the property `P`. As long as the host is in a state with the property `Q`, the
values that it gives have `P`, and it stays in such states when the components that it executes
have `P`. -/
structure Host.Preserves (h : Host σ) (P : Value → Prop) (Q : σ → Prop) : Prop where
  str : ∀ s, P (.str s)
  lookup : ∀ s name v, Q s → h.lookup s name = some v → P v
  execute : ∀ s components, Q s → (∀ v ∈ components, P v) → Q (h.execute s components).2

/-- The state has the property `Q`, and the components that are waiting have the property `P`. -/
structure Machine.Has (P : Value → Prop) (Q : σ → Prop) (m : Machine σ) : Prop where
  pending : ∀ v ∈ m.pending, P v
  state : Q m.state

namespace Machine.Has

variable {P : Value → Prop} {Q : σ → Prop} {m : Machine σ}

/-- One more component with the property. -/
theorem push (has : m.Has P Q) {v : Value} (hv : P v) :
  (m.push v).Has P Q
  where
  pending := by
    rw [pending_push]
    exact List.forall_mem_append.mpr ⟨has.pending, List.forall_mem_singleton.mpr hv⟩
  state := has.state

theorem dispatch {h : Host σ} (preserves : h.Preserves P Q) (has : m.Has P Q) (guard : Bool) :
  (m.dispatch h guard).2.Has P Q
  where
  pending := by
    rw [pending_dispatch]
    apply List.forall_mem_nil
  state := by
    change Q (h.dispatch m.state m.blocks.current.active guard m.pending).2
    rw [Host.dispatch]
    split
    · apply has.state
    · split
      · apply preserves.execute _ _ has.state has.pending
      · apply has.state

/-- A token keeps the properties. -/
theorem step {h : Host σ} (preserves : h.Preserves P Q) (has : m.Has P Q) (place : Position)
    (t : Token) :
  (m.step h place t).machine.Has P Q
  := by
  cases t with
  | word text => apply has.push (preserves.str text)
  | literal text => apply has.push (preserves.str text)
  | reference name =>
    rw [Machine.step]
    split
    · rename_i v found
      apply has.push (preserves.lookup _ _ _ has.state found)
    · apply has
  | stop => apply has.dispatch preserves
  | enter =>
    rw [Machine.step]
    split
    · obtain ⟨hpending, hstate⟩ := has.dispatch preserves true
      exact ⟨hpending, hstate⟩
    · apply has
  | leave =>
    rw [Machine.step]
    split
    · exact ⟨has.pending, has.state⟩
    · apply has
  | comment =>
    rw [Machine.step]
    split
    · apply has
    · apply has

end Machine.Has

namespace Scan

variable {h : Host σ} {P : Value → Prop} {Q : σ → Prop}

theorem has_carryOut (preserves : h.Preserves P Q) {s : Scan σ} (has : s.machine.Has P Q)
    (t : Token) :
  (s.carryOut h t).machine.Has P Q
  := by
  by_cases running : s.halt = none
  · rw [carryOut_of_running h running]
    apply has.step preserves
  · rw [carryOut_of_halt h (Option.isSome_iff_ne_none.mpr running)]
    apply has

theorem has_foldl_carryOut (preserves : h.Preserves P Q) (tokens : List Token) {s : Scan σ}
    (has : s.machine.Has P Q) :
  (tokens.foldl (carryOut h) s).machine.Has P Q
  := by
  induction tokens generalizing s with
  | nil => apply has
  | cons t rest ih => apply ih (has_carryOut preserves has t)

theorem has_step (preserves : h.Preserves P Q) (s : Scan σ) (c : Char)
    (has : s.machine.Has P Q) :
  (s.step h c).machine.Has P Q
  := by
  by_cases running : s.halt = none
  · cases hlex : s.lexer.step c with
    | error kind =>
      rw [step_of_error h running hlex]
      apply has
    | ok read =>
      rw [step_of_ok h running hlex, machine_goOn]
      apply has_foldl_carryOut preserves _ has
  · rw [step_of_halt h (Option.isSome_iff_ne_none.mpr running)]
    apply has

/-- A text keeps the properties. -/
theorem has_feed (preserves : h.Preserves P Q) {s : Scan σ} (has : s.machine.Has P Q)
    (text : List Char) :
  (s.feed h text).machine.Has P Q
  := by
  apply feed_invariant h (P := fun s => s.machine.Has P Q) (has_step preserves) has

end Scan

/-! ### Values of a workspace -/

/-- A value that may come up in a run with the given bindings: a string of the script, a reply of a
command, or the value of a binding. -/
inductive Value.Arises (bindings : Dict Value) : Value → Prop
  | null : Arises bindings null
  | bool (b : Bool) : Arises bindings (bool b)
  | str (s : String) : Arises bindings (str s)
  | bound {m : String × Value} (hm : m ∈ bindings) : Arises bindings m.2

/-- The value that a command binds is one of its components. -/
theorem Command.mem_of_ofComponents_set {components : List Value} {name : String} {v : Value}
    (h : ofComponents components = .ok (set name v)) :
  v ∈ components
  := by
  rw [ofComponents.eq_def] at h
  split at h
  · cases h
  · rw [ofNamed.eq_def] at h
    split at h
    all_goals cases h
    simp
  · cases h

namespace Workspace

/-- All values in the variables and in the transcript arise from the bindings. -/
structure Arises (bindings : Dict Value) (w : Workspace) : Prop where
  vars : ∀ m ∈ w.vars, m.2.Arises bindings
  components : ∀ e ∈ w.transcript, ∀ v ∈ e.components, v.Arises bindings
  results : ∀ e ∈ w.transcript, e.result.Arises bindings

variable {bindings : Dict Value} {w : Workspace}

/-- The reply of an instruction is a truth value or `null`. -/
theorem arises_result_evaluate (w : Workspace) (components : List Value) :
  (w.evaluate components).1.result.Arises bindings
  := by
  rw [evaluate]
  split
  · rename_i command hcommand
    cases command with
    | set name v => apply Value.Arises.bool
    | unset name => apply Value.Arises.bool
    | echo line => apply Value.Arises.bool
    | eq a b => apply Value.Arises.bool
    | ne a b => apply Value.Arises.bool
    | not v => apply Value.Arises.bool
    | defined name => apply Value.Arises.bool
    | const b => apply Value.Arises.bool
    | abort => apply Value.Arises.null
  · apply Value.Arises.null

/-- An instruction binds a variable to one of its components at most. -/
theorem Arises.vars_evaluate (arises : w.Arises bindings) {components : List Value}
    (hcomponents : ∀ v ∈ components, v.Arises bindings) :
  ∀ m ∈ (w.evaluate components).2.vars, m.2.Arises bindings
  := by
  rw [evaluate]
  split
  · rename_i command hcommand
    cases command with
    | set name v =>
      intro m hm
      rcases Dict.eq_or_mem_of_mem_insert hm with rfl | hm
      · apply hcomponents v (Command.mem_of_ofComponents_set hcommand)
      · apply arises.vars m hm
    | unset name =>
      intro m hm
      apply arises.vars m (List.mem_filter.mp hm).1
    | echo line => apply arises.vars
    | eq a b => apply arises.vars
    | ne a b => apply arises.vars
    | not v => apply arises.vars
    | defined name => apply arises.vars
    | const b => apply arises.vars
    | abort => apply arises.vars
  · apply arises.vars

namespace Arises

theorem new (bindings : Dict Value) :
  (Workspace.new bindings).Arises bindings
  where
  vars _ hm := .bound hm
  components := by simp
  results := by simp

theorem execute (arises : w.Arises bindings) {components : List Value}
    (hcomponents : ∀ v ∈ components, v.Arises bindings) :
  (w.execute components).2.Arises bindings
  where
  vars := arises.vars_evaluate hcomponents
  components := by
    rw [transcript_execute]
    exact List.forall_mem_append.mpr
      ⟨arises.components, List.forall_mem_singleton.mpr hcomponents⟩
  results := by
    rw [transcript_execute]
    exact List.forall_mem_append.mpr
      ⟨arises.results, List.forall_mem_singleton.mpr (arises_result_evaluate w components)⟩

end Arises

theorem preserves_arises (bindings : Dict Value) :
  host.Preserves (Value.Arises bindings) (Arises bindings)
  where
  str s := .str s
  lookup w name v arises found := by
    apply arises.vars _ (Dict.mem_of_get? found)
  execute w components arises hcomponents := arises.execute hcomponents

/-- All values that come up in a run arise from the bindings with which it began. -/
theorem arises_run (bindings : Dict Value) (script : String) :
  (host.run (new bindings) script).state.Arises bindings
  := by
  have has : (Machine.start (new bindings)).Has (Value.Arises bindings) (Arises bindings) :=
    ⟨List.forall_mem_nil _, Arises.new bindings⟩
  apply (Scan.has_feed (preserves_arises bindings) has _).state

end Workspace

end GuardedScript
