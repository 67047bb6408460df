import GuardedScript.Lexer
import GuardedScript.Machine

/-!
# Scanning a script

A scan runs the lexer and the machine together, character by character: each token is carried
out as soon as it is complete. No tree is built, and nothing of the text is read after the run
has stopped.
-/

namespace GuardedScript

/-- The state of a run: lexer and machine, the place of the next character, all events so far,
and why the run stopped, if it did. -/
structure Scan (σ : Type u) where
  lexer : Lexer
  machine : Machine σ
  place : Position
  trace : Array Event
  halt : Option Halt

namespace Scan

variable {σ : Type u}

/-- Nothing has been read, and the host is in a given state. -/
def start (s : σ) : Scan σ :=
  ⟨.start, .start s, .start, #[], none⟩

/-- A token is carried out, unless the run has stopped. -/
def carryOut (h : Host σ) (s : Scan σ) (t : Token) : Scan σ :=
  match s.halt with
  | some _ => s
  | none =>
    let effect := s.machine.step h s.place t
    { s with
      machine := effect.machine
      trace := s.trace ++ effect.events
      halt := effect.halt }

/-- The run goes on with a lexer at a place, unless its text was refused: then it stays where it
is. -/
def goOn (s : Scan σ) (lexer : Lexer) (place : Position) : Scan σ :=
  match s.halt with
  | some (.failed (.malformed _ _)) => s
  | _ => { s with lexer, place }

/-- One more character, unless the run has stopped. -/
def step (h : Host σ) (s : Scan σ) (c : Char) : Scan σ :=
  match s.halt with
  | some _ => s
  | none =>
    match s.lexer.step c with
    | .error kind => { s with halt := some (.failed (.malformed kind s.place)) }
    | .ok (lexer, tokens) => (tokens.foldl (carryOut h) s).goOn lexer (s.place.advance c)

/-- The characters of a text, one after the other. -/
def feed (h : Host σ) (s : Scan σ) (text : List Char) : Scan σ :=
  text.foldl (step h) s

/-- How the run ends when the text ends here. -/
def result (s : Scan σ) : Except ScriptError Outcome :=
  match s.halt with
  | some .aborted => .ok .aborted
  | some (.failed error) => .error error
  | none =>
    match s.lexer.finish s.machine.assembling with
    | some kind => .error (.malformed kind s.place)
    | none => .ok .completed

/-- The state of the host. -/
def state (s : Scan σ) : σ :=
  s.machine.state

/-- What has happened, in order. -/
def events (s : Scan σ) : List Event :=
  s.trace.toList

/-- What has passed between the run and the host, in order. -/
def interactions (s : Scan σ) : List Interaction :=
  s.events.filterMap Event.interaction?

/-- What has been logged, in order. -/
def log (s : Scan σ) : List Log.Entry :=
  s.events.flatMap Event.log

@[simp]
theorem feed_nil (h : Host σ) (s : Scan σ) :
  s.feed h [] = s
  := by
  rfl

@[simp]
theorem feed_cons (h : Host σ) (s : Scan σ) (c : Char) (text : List Char) :
  s.feed h (c :: text) = (s.step h c).feed h text
  := by
  rfl

/-- Scanning two texts one after the other is scanning them as one. -/
@[simp]
theorem feed_append (h : Host σ) (s : Scan σ) (first second : List Char) :
  s.feed h (first ++ second) = (s.feed h first).feed h second
  := by
  simp [feed]

/-- Going on changes nothing but the lexer and the place. -/
theorem goOn_eq (s : Scan σ) (lexer : Lexer) (place : Position) :
  ∃ lexer' place', s.goOn lexer place = { s with lexer := lexer', place := place' }
  := by
  rw [goOn]
  split
  · exact ⟨s.lexer, s.place, rfl⟩
  · exact ⟨lexer, place, rfl⟩

@[simp]
theorem machine_goOn (s : Scan σ) (lexer : Lexer) (place : Position) :
  (s.goOn lexer place).machine = s.machine
  := by
  obtain ⟨lexer', place', h⟩ := s.goOn_eq lexer place
  rw [h]

@[simp]
theorem trace_goOn (s : Scan σ) (lexer : Lexer) (place : Position) :
  (s.goOn lexer place).trace = s.trace
  := by
  obtain ⟨lexer', place', h⟩ := s.goOn_eq lexer place
  rw [h]

@[simp]
theorem halt_goOn (s : Scan σ) (lexer : Lexer) (place : Position) :
  (s.goOn lexer place).halt = s.halt
  := by
  obtain ⟨lexer', place', h⟩ := s.goOn_eq lexer place
  rw [h]

@[simp]
theorem events_goOn (s : Scan σ) (lexer : Lexer) (place : Position) :
  (s.goOn lexer place).events = s.events
  := by
  rw [events, trace_goOn]
  rfl

/-- The text of the run was not refused. -/
def Accepted (s : Scan σ) : Prop :=
  ∀ kind place, s.halt ≠ some (.failed (.malformed kind place))

/-- A run whose text was not refused goes on. -/
theorem goOn_of_accepted {s : Scan σ} (accepted : s.Accepted) (lexer : Lexer)
    (place : Position) :
  s.goOn lexer place = { s with lexer, place }
  := by
  rw [goOn]
  split
  · rename_i kind place' hhalt
    apply absurd hhalt (accepted kind place')
  · rfl

/-- A run whose text was refused stays where it is. -/
theorem goOn_of_not_accepted {s : Scan σ} (refused : ¬ s.Accepted) (lexer : Lexer)
    (place : Position) :
  s.goOn lexer place = s
  := by
  rw [goOn]
  split
  · rfl
  · rename_i accepted
    apply absurd accepted refused

/-- A run that has not stopped goes on. -/
theorem goOn_of_running {s : Scan σ} (running : s.halt = none) (lexer : Lexer)
    (place : Position) :
  s.goOn lexer place = { s with lexer, place }
  := by
  rw [goOn, running]

/-- A token changes nothing once the run has stopped. -/
theorem carryOut_of_halt (h : Host σ) {s : Scan σ} (stopped : s.halt.isSome) (t : Token) :
  s.carryOut h t = s
  := by
  obtain ⟨reason, hr⟩ := Option.isSome_iff_exists.mp stopped
  simp [carryOut, hr]

/-- A character changes nothing once the run has stopped. -/
theorem step_of_halt (h : Host σ) {s : Scan σ} (stopped : s.halt.isSome) (c : Char) :
  s.step h c = s
  := by
  obtain ⟨reason, hr⟩ := Option.isSome_iff_exists.mp stopped
  simp [step, hr]

/-- A text changes nothing once the run has stopped. -/
theorem feed_of_halt (h : Host σ) {s : Scan σ} (stopped : s.halt.isSome) (text : List Char) :
  s.feed h text = s
  := by
  induction text with
  | nil => rfl
  | cons c rest ih => rw [feed_cons, step_of_halt h stopped, ih]

end Scan

/-- The scan of a text from a state of the host. -/
def Host.scan {σ : Type u} (h : Host σ) (s : σ) (text : String) : Scan σ :=
  (Scan.start s).feed h text.toList

end GuardedScript
