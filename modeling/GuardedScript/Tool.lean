import GuardedScript.Bindings
import GuardedScript.CommandLine
import GuardedScript.Files
import GuardedScript.Log.Filter
import GuardedScript.Workspace

/-!
# The tool

The tool reads a script and its bindings, runs the script on a new workspace, prints the lines
that were written and saves the transcript. Nothing is printed or saved unless the whole run
went without an error, and the inputs are read before anything is saved.
-/

namespace GuardedScript.Tool

open CommandLine (Options)

/-- Why a run of the tool failed. -/
inductive Fault
  /-- A file cannot be read. -/
  | reading (path : String) (fault : Files.Fault)
  /-- A file holds no bindings. -/
  | parsing (path : String) (fault : Bindings.Fault)
  /-- The script is in error. -/
  | running (path : String) (error : ScriptError)
  /-- The transcript cannot be saved. -/
  | creating (path : String) (fault : Files.Fault)

/-- The fault in words: what was being done, then what went wrong. -/
def Fault.message : Fault → String
  | reading path fault => s!"Reading {path}: {fault.message}"
  | parsing path fault => s!"Parsing bindings {path}: {fault.message}"
  | running path error => s!"Running {path}: {error.message}"
  | creating path fault => s!"Creating {path}: {fault.message}"

/-- An entry of the tool itself. -/
def entry (level : Log.Level) (message : String) : Log.Entry :=
  ⟨level, .tool, message⟩

/-! ### Reading and running -/

/-- A script and the variables with which it begins. -/
structure Job where
  script : String
  bindings : Dict Value

/-- The bindings in a file that has been read, or was to be. -/
def bindingsOf (path : String) (text : Except Files.Fault String) :
    Except Fault (Dict Value) :=
  match text with
  | .error fault => .error (.reading path fault)
  | .ok text =>
    match Bindings.load text.toList with
    | .error fault => .error (.parsing path fault)
    | .ok bindings => .ok bindings

/-- The job that the options ask for, where `read` gives the text of a file. -/
def job (read : String → Except Files.Fault String) (o : Options) : Except Fault Job :=
  match read o.script with
  | .error fault => .error (.reading o.script fault)
  | .ok script =>
    match o.bindings with
    | none => .ok ⟨script, []⟩
    | some path =>
      match bindingsOf path (read path) with
      | .error fault => .error fault
      | .ok bindings => .ok ⟨script, bindings⟩

/-- What is logged when a job has been read. -/
def Job.loaded (j : Job) (path : String) : Log.Entry :=
  entry .info
    s!"Loaded {path} ({j.script.utf8ByteSize} bytes, {j.bindings.length} bindings)"

/-- The run of a job on a new workspace. -/
def Job.run (j : Job) : Scan Workspace :=
  Workspace.host.run (Workspace.new j.bindings) j.script

/-! ### What is left to do after a run -/

/-- A run without an error: how it ended, and the workspace it left. -/
structure Product where
  outcome : Outcome
  workspace : Workspace

/-- The lines as they are printed, each with a line feed. -/
def printed (lines : List String) : String :=
  String.join (lines.map (· ++ "\n"))

/-- What the product prints. -/
def Product.output (p : Product) : String :=
  printed p.workspace.output

/-- The text of the product's transcript. -/
def Product.transcript (p : Product) : String :=
  String.ofList (Transcript.write p.workspace.transcript)

/-- What is logged when all is done. -/
def Product.closing (p : Product) : Log.Entry :=
  entry .info <|
    match p.outcome with
    | .completed => s!"Script completed, {p.workspace.executed} instructions executed"
    | .aborted => "Script aborted by command"

/-- The product that the options ask for, and what is logged on the way to it, where `read`
gives the text of a file. -/
def produce (read : String → Except Files.Fault String) (o : Options) :
    Except Fault Product × List Log.Entry :=
  match job read o with
  | .error fault => (.error fault, [])
  | .ok j =>
    let run := j.run
    let log := j.loaded o.script :: run.log
    match run.result with
    | .error error => (.error (.running o.script error), log)
    | .ok outcome => (.ok ⟨outcome, run.state⟩, log)

/-! ### A whole run -/

/-- What a run of the tool leaves. -/
structure Report where
  result : Except Fault Outcome
  output : String
  files : Files
  log : List Log.Entry

/-- A run of the tool on the given files. -/
def run (o : Options) (fs : Files) : Report :=
  match produce fs.read o with
  | (.error fault, log) => ⟨.error fault, "", fs, log⟩
  | (.ok product, log) =>
    match o.transcript with
    | none => ⟨.ok product.outcome, product.output, fs, log ++ [product.closing]⟩
    | some path =>
      match fs.write path product.transcript with
      | .error fault => ⟨.error (.creating path fault), product.output, fs, log⟩
      | .ok fs => ⟨.ok product.outcome, product.output, fs, log ++ [product.closing]⟩

/-- What is logged about the result of a run. -/
def verdict : Except Fault Outcome → List Log.Entry
  | .error fault => [entry .error fault.message]
  | .ok _ => []

/-- The exit status of a run. -/
def status : Except Fault Outcome → Nat
  | .error _ => 1
  | .ok _ => 0

/-! ### Showing the log -/

/-- A character of a message as it is shown: those that control a terminal are spelled out. -/
def shownChar (c : Char) : List Char :=
  let n := c.toNat
  if n = 0x1b ∨ n = 0x07 ∨ n = 0x08 ∨ n = 0x0c ∨ n = 0x7f then
    ['\\', 'x', Value.hexDigit (n / 16), Value.hexDigit n]
  else if 0x80 ≤ n ∧ n ≤ 0x9f then
    ['\\', 'u', '\x7b', Value.hexDigit (n / 16), Value.hexDigit n, '\x7d']
  else [c]

/-- An entry as it is shown. -/
def shownEntry (e : Log.Entry) : Log.Entry :=
  { e with message := String.ofList (e.message.toList.flatMap shownChar) }

/-- The lines of a log that a filter shows. A message may have more than one line. -/
def shownLines (f : Log.Filter) (log : List Log.Entry) : List String :=
  (log.filter f.shows).flatMap fun e =>
    ((shownEntry e).render.toList.splitOn '\n').map fun line =>
      String.ofList (line.dropWhile (· = ' '))

/-- What a call of the tool with arguments leaves: its exit status, what it prints, and the
lines of its log, unless the arguments are at fault. -/
structure Exit where
  status : Nat
  output : String
  shown : Option (List String)
  files : Files

/-- A call of the tool with arguments, where `filter` is the filter it is given for its log. -/
def call (args : List String) (filter : Option String) (fs : Files) : Exit :=
  match CommandLine.parse args with
  | .error .help => ⟨0, CommandLine.helpText, some [], fs⟩
  | .error .version => ⟨0, CommandLine.versionText, some [], fs⟩
  | .error _ => ⟨2, "", none, fs⟩
  | .ok o =>
    let report := run o fs
    let shown := shownLines (.choose filter o.verbose) (report.log ++ verdict report.result)
    ⟨status report.result, report.output, some shown, report.files⟩

end GuardedScript.Tool
