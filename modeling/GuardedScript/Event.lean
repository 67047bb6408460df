import GuardedScript.Block
import GuardedScript.Dispatch

/-!
# The trace of a run

Everything a run does is an event: components are read, variables looked up, instructions
dispatched, blocks entered and left. The log of a run and the list of its interactions with
the host are both read off its events.
-/

namespace GuardedScript

/-- What passes between a run and its host. -/
inductive Interaction
  /-- A variable was looked up; it may have had no value. -/
  | lookup (name : String) (value? : Option Value)
  /-- An instruction was executed, as a guard or not, and the host replied. -/
  | call (components : List Value) (guard : Bool) (reply : Reply)

/-- Something that happens in a run. -/
inductive Event
  /-- A bare word was read. -/
  | word (text : String)
  /-- A literal was read. -/
  | literal (text : String)
  /-- A variable was looked up; it may have had no value. -/
  | lookup (name : String) (value? : Option Value)
  /-- An instruction ended. -/
  | dispatched (d : Dispatch)
  /-- A block began, at the given depth. -/
  | entered (block : Block) (depth : Nat)
  /-- A block ended, and another one became current. -/
  | left (closed current : Block)

namespace Event

/-- The component that the event adds to the instruction under way. -/
def component? : Event → Option Value
  | word text => some (.str text)
  | literal text => some (.str text)
  | lookup _ value? => value?
  | _ => none

/-- The components of the instruction that the event ends. -/
def ended? : Event → Option (List Value)
  | dispatched d => some d.components
  | _ => none

/-- What the event passes between the run and its host, if anything. -/
def interaction? : Event → Option Interaction
  | lookup name value? => some (.lookup name value?)
  | dispatched (.called components guard reply) => some (.call components guard reply)
  | _ => none

/-- An entry about blocks. -/
def blockEntry (message : String) : Log.Entry :=
  ⟨.debug, .blocks, message⟩

/-- What is logged about the event. -/
def log : Event → List Log.Entry
  | dispatched d => d.log
  | entered block depth =>
    [blockEntry s!"GScript CNTX: <--- Enter [{block.id}] depth {depth} - Activated: {block.active}"]
  | left closed current =>
    [blockEntry s!"GScript CNTX: ---> Close [{closed.id}], return to [{current.id}] - Activated: {current.active}"]
  | _ => []

end Event

end GuardedScript
