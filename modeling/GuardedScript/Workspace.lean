import GuardedScript.Command
import GuardedScript.Script
import GuardedScript.Transcript

/-!
# Workspaces

A workspace is the host behind the command-line tool. It holds variables, the lines that have
been written, and a transcript of every instruction it was given, understood or not. Resetting
it brings back the variables it was made with and forgets the rest.
-/

namespace GuardedScript

/-- Variables, written lines and executed instructions. The lines and the transcript stand
latest first. -/
structure Workspace where
  /-- The variables to which a reset returns. -/
  seed : Dict Value
  vars : Dict Value
  linesReversed : List String
  transcriptReversed : List Transcript.Entry

namespace Workspace

/-- A workspace in which nothing has happened. -/
def new (seed : Dict Value) : Workspace :=
  ⟨seed, seed, [], []⟩

/-- The lines that have been written, in order. -/
def output (w : Workspace) : List String :=
  w.linesReversed.reverse

/-- The instructions that have been executed, in order. -/
def transcript (w : Workspace) : List Transcript.Entry :=
  w.transcriptReversed.reverse

/-- How many instructions have been executed. -/
def executed (w : Workspace) : Nat :=
  w.transcriptReversed.length

/-- The workspace as it was made. -/
def reset (w : Workspace) : Workspace :=
  new w.seed

/-- The value of a variable. -/
def lookup (w : Workspace) (name : String) : Option Value :=
  w.vars.get? name

/-- What a command does: its reply, and the workspace after it. -/
def perform (w : Workspace) : Command → Reply × Workspace
  | .set name value => ({ result := .bool true }, { w with vars := w.vars.insert name value })
  | .unset name =>
    ({ result := .bool (w.lookup name).isSome }, { w with vars := w.vars.erase name })
  | .echo line =>
    ({ result := .bool true }, { w with linesReversed := line :: w.linesReversed })
  | .eq a b => ({ result := .bool (a.same b) }, w)
  | .ne a b => ({ result := .bool !a.same b }, w)
  | .not v => ({ result := .bool !v.truthy }, w)
  | .defined name => ({ result := .bool (w.lookup name).isSome }, w)
  | .const b => ({ result := .bool b }, w)
  | .abort => ({ result := .null, abort := true }, w)

/-- What an instruction does. One that is no command only leaves a note in the log. -/
def evaluate (w : Workspace) (components : List Value) : Reply × Workspace :=
  match Command.ofComponents components with
  | .ok command => w.perform command
  | .error misuse => ({ result := .null, notes := misuse.log }, w)

/-- The workspace with one more entry in its transcript. -/
def record (w : Workspace) (e : Transcript.Entry) : Workspace :=
  { w with transcriptReversed := e :: w.transcriptReversed }

/-- An instruction is carried out and recorded. -/
def execute (w : Workspace) (components : List Value) : Reply × Workspace :=
  let (reply, next) := w.evaluate components
  (reply, next.record ⟨components, reply.result, reply.abort⟩)

/-- Workspaces as a host. -/
def host : Host Workspace :=
  ⟨reset, lookup, execute⟩

/-- The workspace after a list of instructions. -/
def executeAll (w : Workspace) (instructions : List (List Value)) : Workspace :=
  instructions.foldl (fun w components => (w.execute components).2) w

/-- The workspace that its own transcript leads to, when it is carried out on a new one. -/
def replay (w : Workspace) : Workspace :=
  (new w.seed).executeAll (w.transcript.map Transcript.Entry.components)

@[simp]
theorem transcript_new (seed : Dict Value) :
  (new seed).transcript = []
  := by
  rfl

@[simp]
theorem transcript_record (w : Workspace) (e : Transcript.Entry) :
  (w.record e).transcript = w.transcript ++ [e]
  := by
  simp [transcript, record]

/-- No command touches the transcript. -/
theorem transcript_perform (w : Workspace) (command : Command) :
  (w.perform command).2.transcript = w.transcript
  := by
  cases command <;> rfl

/-- No command touches the seed. -/
theorem seed_perform (w : Workspace) (command : Command) :
  (w.perform command).2.seed = w.seed
  := by
  cases command <;> rfl

/-- No instruction touches the transcript before it is recorded. -/
theorem transcript_evaluate (w : Workspace) (components : List Value) :
  (w.evaluate components).2.transcript = w.transcript
  := by
  rw [evaluate]
  split
  · apply transcript_perform
  · rfl

/-- Every instruction is recorded with its reply. -/
theorem transcript_execute (w : Workspace) (components : List Value) :
  (w.execute components).2.transcript
    = w.transcript
      ++ [⟨components, (w.execute components).1.result, (w.execute components).1.abort⟩]
  := by
  rw [execute, transcript_record, transcript_evaluate]

/-- No instruction touches the seed. -/
theorem seed_execute (w : Workspace) (components : List Value) :
  (w.execute components).2.seed = w.seed
  := by
  change (w.evaluate components).2.seed = w.seed
  rw [evaluate]
  split
  · apply seed_perform
  · rfl

end Workspace

end GuardedScript
