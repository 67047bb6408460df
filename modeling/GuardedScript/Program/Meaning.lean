import GuardedScript.Event
import GuardedScript.Program.Basic

/-!
# The meaning of a program

What a program does is defined by recursion on its tree. The references in an instruction are
looked up even where it is skipped; the instruction itself is executed only in an active block. A
block is active when its guard is executed, holds, and does not ask for the script to stop. A run
goes on from item to item until something stops it.
-/

namespace GuardedScript

/-- Why a program stops before its last item. -/
inductive Stop
  /-- The host asked for it. -/
  | aborted
  /-- A variable is not defined. -/
  | undefined (name : String)
deriving DecidableEq, Repr

/-- A part of a run: the state of the host after it, what has passed between run and host, and
why the run stopped, if it did. -/
structure Passage (σ : Type u) where
  state : σ
  interactions : List Interaction
  stop : Option Stop

namespace Passage

variable {σ : Type u}

/-- Two parts of a run, the second of which begins where the first ends. -/
def andThen (p : Passage σ) (next : σ → Passage σ) : Passage σ :=
  match p.stop with
  | some _ => p
  | none =>
    let q := next p.state
    ⟨q.state, p.interactions ++ q.interactions, q.stop⟩

end Passage

/-- The values of components in a state, and the lookups on the way to them. The first variable
without a value ends the lookups. -/
def Component.resolve {σ : Type u} (h : Host σ) (s : σ) :
    List Component → List Interaction × Except String (List Value)
  | [] => ([], .ok [])
  | .word text :: rest =>
    let (asked, values) := resolve h s rest
    (asked, values.map (.str text :: ·))
  | .literal _ text :: rest =>
    let (asked, values) := resolve h s rest
    (asked, values.map (.str text :: ·))
  | .reference name :: rest =>
    match h.lookup s name with
    | none => ([.lookup name none], .error name)
    | some v =>
      let (asked, values) := resolve h s rest
      (.lookup name (some v) :: asked, values.map (v :: ·))

mutual

/-- The run of an item, in a block that is active or not. -/
def Item.run {σ : Type u} (h : Host σ) (active : Bool) (s : σ) : Item → Passage σ
  | .instruction components =>
    match Component.resolve h s components with
    | (asked, .error name) => ⟨s, asked, some (.undefined name)⟩
    | (asked, .ok values) =>
      if active then
        let (reply, next) := h.execute s values
        ⟨next, asked ++ [.call values false reply], if reply.abort then some .aborted else none⟩
      else ⟨s, asked, none⟩
  | .block guard body =>
    match Component.resolve h s guard with
    | (asked, .error name) => ⟨s, asked, some (.undefined name)⟩
    | (asked, .ok values) =>
      if active then
        let (reply, next) := h.execute s values
        let holds := !reply.abort && reply.result.truthy
        Passage.andThen ⟨next, asked ++ [.call values true reply], none⟩ fun s =>
          Program.run h holds s body
      else
        Passage.andThen ⟨s, asked, none⟩ fun s => Program.run h false s body

/-- The run of a program, in a block that is active or not. -/
def Program.run {σ : Type u} (h : Host σ) (active : Bool) (s : σ) : List Item → Passage σ
  | [] => ⟨s, [], none⟩
  | item :: rest =>
    Passage.andThen (item.run h active s) fun s => Program.run h active s rest

end

end GuardedScript
