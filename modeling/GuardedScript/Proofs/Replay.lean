import GuardedScript.Proofs.Activation
import GuardedScript.Workspace.History

/-!
# Replaying a workspace

The transcript of a workspace is a complete account of it: executing the instructions of the
transcript in order, on a new workspace with the same seed, leads to the workspace itself, with
its variables, its lines and its transcript. This holds after every history, and at every moment
within a run, because a workspace changes only by a reset or by an instruction that is recorded.

So nothing but the seed survives a reset, and a run does not depend on what came before it.
-/

universe u

namespace GuardedScript

/-! ### Hosts -/

/-- What every instruction keeps of the state of the host, every text keeps. -/
theorem Scan.state_feed {σ : Type u} (h : Host σ) {P : σ → Prop}
    (hexecute : ∀ s components, P s → P (h.execute s components).2) {s : Scan σ}
    (hs : P s.state) (text : List Char) :
  P (s.feed h text).state
  := by
  apply feed_invariant h (P := fun t => P t.state) _ hs
  intro t c ht
  rcases calls_step h t c with ⟨-, hstate⟩ | ⟨-, guard, -, components, reply, -, hreply⟩
  · rw [hstate]
    apply ht
  · have hnext := hexecute t.state components ht
    rw [hreply] at hnext
    apply hnext

/-- How a workspace records the interaction, if it is a call. -/
def Interaction.entry? : Interaction → Option Transcript.Entry
  | lookup _ _ => none
  | call components _ reply => some ⟨components, reply.result, reply.abort⟩

namespace Workspace

/-! ### Instructions in a row -/

theorem executeAll_concat (w : Workspace) (instructions : List (List Value))
    (components : List Value) :
  w.executeAll (instructions ++ [components])
    = ((w.executeAll instructions).execute components).2
  := by
  rw [executeAll, List.foldl_append]
  rfl

/-- The workspace has the given seed, and its transcript, carried out on a new workspace with that
seed, leads to it. -/
structure Replays (seed : Dict Value) (w : Workspace) : Prop where
  seed : w.seed = seed
  replay : w.replay = w

namespace Replays

variable {seed : Dict Value} {w : Workspace}

/-- A new workspace has nothing to replay. -/
theorem new (seed : Dict Value) :
  Replays seed (.new seed)
  where
  seed := rfl
  replay := rfl

/-- An instruction is replayed after those before it. -/
theorem execute (replays : Replays seed w) (components : List Value) :
  Replays seed (w.execute components).2
  where
  seed := (seed_execute w components).trans replays.seed
  replay := by
    rw [Workspace.replay, seed_execute, transcript_execute, List.map_append]
    apply Eq.trans (executeAll_concat _ _ components)
    rw [← Workspace.replay, replays.replay]

/-- A reset leads back to the new workspace. -/
theorem reset_eq (replays : Replays seed w) :
  w.reset = .new seed
  := by
  rw [reset, replays.seed]

theorem reset (replays : Replays seed w) :
  Replays seed w.reset
  := by
  rw [replays.reset_eq]
  apply new

/-- A text that is scanned keeps the transcript complete. -/
theorem feed {s : Scan Workspace} (replays : Replays seed s.state) (text : List Char) :
  Replays seed (s.feed host text).state
  := by
  apply Scan.state_feed host _ replays
  intro w components replays
  apply replays.execute

theorem apply (replays : Replays seed w) (operation : Operation) :
  Replays seed (w.apply operation)
  := by
  cases operation with
  | execute components => apply replays.execute
  | lookup name => apply replays
  | reset => apply replays.reset
  | run script => apply feed replays.reset
  | scan text => apply feed replays

/-- After every history the transcript is complete. -/
theorem applyAll (replays : Replays seed w) (history : List Operation) :
  Replays seed (w.applyAll history)
  := by
  induction history generalizing w with
  | nil => apply replays
  | cons operation rest ih =>
    rw [applyAll_cons]
    apply ih (replays.apply operation)

end Replays

/-! ### The transcript of a run -/

/-- A character adds the instruction to the transcript that is executed there, if there is one. -/
theorem transcript_step (s : Scan Workspace) (c : Char) {earlier : List Transcript.Entry}
    (hs : s.state.transcript = earlier ++ s.calls.filterMap Interaction.entry?) :
  (s.step host c).state.transcript
    = earlier ++ (s.step host c).calls.filterMap Interaction.entry?
  := by
  rcases Scan.calls_step host s c with ⟨hcalls, hstate⟩
    | ⟨-, guard, -, components, reply, hcalls, hreply⟩
  · rw [hstate, hcalls, hs]
  · have hexecute : s.state.execute components = (reply, (s.step host c).state) := hreply
    have htranscript := transcript_execute s.state components
    rw [hexecute, hs] at htranscript
    rw [htranscript, hcalls, List.filterMap_append, List.append_assoc]
    rfl

/-- A scan adds to the transcript the instructions that are executed in it. -/
theorem transcript_feed (w : Workspace) (text : List Char) :
  ((Scan.start w).feed host text).state.transcript
    = w.transcript ++ ((Scan.start w).feed host text).calls.filterMap Interaction.entry?
  := by
  apply Scan.feed_invariant host (P := fun s =>
    s.state.transcript = w.transcript ++ s.calls.filterMap Interaction.entry?)
  · intro s c
    apply transcript_step
  · apply (List.append_nil _).symm

/-! ### Histories -/

/-- The transcript is a complete account of a workspace: after every history, and after any number
of characters of a text that is scanned or a script that is run then. After a run it lists the
instructions that were executed in that run, in order and with their replies, however the run
ended. -/
theorem transcript_complete (seed : Dict Value) (history : List Operation) :
  let w := (new seed).applyAll history
  Replays seed w
    ∧ (∀ (text : String) count,
      Replays seed ((Scan.start w).feed host (text.toList.take count)).state)
    ∧ (∀ (script : String) count, Replays seed
      ((Scan.start w.reset).feed host ((Script.normalize script.toList).take count)).state)
    ∧ ∀ script, (host.run w script).state.transcript
      = (host.run w script).calls.filterMap Interaction.entry?
  := by
  intro w
  have replays : Replays seed w := (Replays.new seed).applyAll history
  constructor
  · apply replays
  · constructor
    · intro text count
      apply Replays.feed replays
    · constructor
      · intro script count
        apply Replays.feed replays.reset
      · intro script
        have hfeed := transcript_feed w.reset (Script.normalize script.toList)
        rw [reset, transcript_new, List.nil_append] at hfeed
        apply hfeed

/-- A run does not depend on the history before it: result, events and the workspace it leaves are
those of the run on a new workspace. -/
theorem run_isolated (seed : Dict Value) (history : List Operation) (script : String) :
  host.run ((new seed).applyAll history) script = host.run (new seed) script
  := by
  have hreset : host.reset ((new seed).applyAll history) = host.reset (new seed) :=
    ((Replays.new seed).applyAll history).reset_eq
  rw [Host.run, hreset]
  rfl

end Workspace

end GuardedScript
