import GuardedScript.Error
import GuardedScript.Event
import GuardedScript.Token

/-!
# From tokens to effects

The machine carries tokens out: it collects the components of an instruction, dispatches the
instruction to the host when it ends, and keeps the open blocks. Components that are waiting
when a block ends stay, and belong to the instruction that goes on after it.
-/

namespace GuardedScript

/-- Why a run stops before the end of its text. -/
inductive Halt
  /-- The host asked for it. -/
  | aborted
  /-- The script is in error. -/
  | failed (error : ScriptError)
deriving DecidableEq, Repr

/-- The state of the machine: the components of the instruction under way, the open blocks
and the state of the host. -/
structure Machine (σ : Type u) where
  pending : List Value
  blocks : Blocks
  state : σ

/-- What a token does: the machine after it, what happened, and whether the run stops. -/
structure Effect (σ : Type u) where
  machine : Machine σ
  events : List Event
  halt : Option Halt := none

namespace Machine

variable {σ : Type u}

/-- Nothing has been read, and the host is in a given state. -/
def start (s : σ) : Machine σ :=
  ⟨[], .start, s⟩

/-- An instruction is under way. -/
def assembling (m : Machine σ) : Bool :=
  !m.pending.isEmpty

/-- One more component. -/
def push (m : Machine σ) (v : Value) : Machine σ :=
  { m with pending := m.pending ++ [v] }

/-- The instruction under way ends, as a guard or not. -/
def dispatch (h : Host σ) (m : Machine σ) (guard : Bool) : Dispatch × Machine σ :=
  let (d, s) := h.dispatch m.state m.blocks.current.active guard m.pending
  (d, { m with pending := [], state := s })

/-- The script is malformed at a place. -/
def refuse (m : Machine σ) (kind : Malformation) (place : Position) : Effect σ :=
  ⟨m, [], some (.failed (.malformed kind place))⟩

/-- A token that is complete at a place. -/
def step (h : Host σ) (place : Position) (m : Machine σ) : Token → Effect σ
  | .word text => { machine := m.push (.str text), events := [.word text] }
  | .literal text => { machine := m.push (.str text), events := [.literal text] }
  | .reference name =>
    match h.lookup m.state name with
    | some v => { machine := m.push v, events := [.lookup name (some v)] }
    | none => ⟨m, [.lookup name none], some (.failed (.undefined name place))⟩
  | .stop =>
    let (d, next) := m.dispatch h false
    ⟨next, [.dispatched d], if d.aborts then some .aborted else none⟩
  | .enter =>
    if m.assembling then
      let (d, next) := m.dispatch h true
      let blocks := next.blocks.enter d.truthy
      { machine := { next with blocks },
        events := [.dispatched d, .entered blocks.current blocks.depth] }
    else m.refuse .blockWithoutGuard place
  | .leave =>
    match m.blocks.leave? with
    | some (closed, blocks) =>
      { machine := { m with blocks }, events := [.left closed blocks.current] }
    | none => m.refuse .closeWithoutBlock place
  | .comment =>
    if m.assembling then m.refuse .commentInInstruction place
    else { machine := m, events := [] }

@[simp]
theorem pending_push (m : Machine σ) (v : Value) :
  (m.push v).pending = m.pending ++ [v]
  := by
  rfl

/-- An instruction is under way once it has a component. -/
@[simp]
theorem assembling_push (m : Machine σ) (v : Value) :
  (m.push v).assembling = true
  := by
  simp [assembling]

theorem assembling_eq_false_iff {m : Machine σ} :
  m.assembling = false ↔ m.pending = []
  := by
  simp [assembling]

/-- No components are left over when an instruction has ended. -/
@[simp]
theorem pending_dispatch (h : Host σ) (m : Machine σ) (guard : Bool) :
  (m.dispatch h guard).2.pending = []
  := by
  rfl

/-- The open blocks do not change when an instruction ends. -/
@[simp]
theorem blocks_dispatch (h : Host σ) (m : Machine σ) (guard : Bool) :
  (m.dispatch h guard).2.blocks = m.blocks
  := by
  rfl

end Machine

end GuardedScript
