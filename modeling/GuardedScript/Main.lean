import GuardedScript.Tool

/-!
# The program

The tool on real files: it reads what the options name, lets `Tool.produce` do the work, and
then prints, saves and reports. All decisions are those of the modules below.
-/

namespace GuardedScript.Main

open CommandLine (Options)

/-- The system's code for a path that leads through a file. -/
def notDirectoryCode : UInt32 :=
  20

/-- The system's code for a path, or a name in it, that has too many bytes. -/
def tooLongCode : UInt32 :=
  36

/-- The system gives a code with or without a minus sign. -/
def isCode (expected code : UInt32) : Bool :=
  code = expected || code = 0 - expected

/-- Why the system refused a file. -/
def faultOf : IO.Error → Files.Fault
  | .noFileOrDirectory _ _ _ => .missing
  | .inappropriateType _ code _ =>
    if isCode notDirectoryCode code then .notDirectory else .isDirectory
  | .invalidArgument _ code details =>
    if isCode tooLongCode code then .tooLong else .other details
  | error => .other error.toString

/-- What is done with a path, unless it cannot be followed at all. -/
def following {α : Type} (path : String) (act : IO α) : IO (Except Files.Fault α) := do
  match Files.pathOf path with
  | .error fault => return .error fault
  | .ok _ =>
    try
      return .ok (← act)
    catch error => return .error (faultOf error)

/-- The text of a file. -/
def readText (path : String) : IO (Except Files.Fault String) := do
  match ← following path (IO.FS.readBinFile path) with
  | .error fault => return .error fault
  | .ok bytes =>
    match String.fromUTF8? bytes with
    | some text => return .ok text
    | none => return .error .notText

/-- A text becomes a file. -/
def writeText (path text : String) : IO (Except Files.Fault Unit) :=
  following path (IO.FS.writeFile path text)

/-- The transcript is saved, if that is wanted. -/
def save (o : Options) (p : Tool.Product) : IO (Except Tool.Fault Unit) := do
  match o.transcript with
  | none => return .ok ()
  | some path =>
    match ← writeText path p.transcript with
    | .ok () => return .ok ()
    | .error fault => return .error (.creating path fault)

/-- The output is printed and the transcript saved: the result, and what is logged about it. -/
def complete (o : Options) (p : Tool.Product) :
    IO (Except Tool.Fault Outcome × List Log.Entry) := do
  let stdout ← IO.getStdout
  stdout.putStr p.output
  stdout.flush
  match ← save o p with
  | .ok () => return (.ok p.outcome, [p.closing])
  | .error fault => return (.error fault, [])

/-- A run of the tool; the log goes to the standard error stream. -/
def run (o : Options) (filter : Log.Filter) : IO UInt32 := do
  let texts ← (o.script :: o.bindings.toList).mapM fun path => return (path, ← readText path)
  let read := fun path => (texts.lookup path).getD (.error .missing)
  let (product, log) := Tool.produce read o
  let (result, ending) ←
    match product with
    | .ok p => complete o p
    | .error fault => pure (.error fault, [])
  for line in Tool.shownLines filter (log ++ ending ++ Tool.verdict result) do
    IO.eprintln line
  return (Tool.status result).toUInt32

/-- The beginning of the help text, for arguments that ask for no run. -/
def usage : String :=
  CommandLine.helpLines.headD ""

end GuardedScript.Main

open GuardedScript in
/-- The command line of the tool. -/
def main (args : List String) : IO UInt32 := do
  match CommandLine.parse args with
  | .ok o => Main.run o (.choose (← IO.getEnv "RUST_LOG") o.verbose)
  | .error .help =>
    IO.print CommandLine.helpText
    return 0
  | .error .version =>
    IO.print CommandLine.versionText
    return 0
  | .error _ =>
    IO.eprintln Main.usage
    return 2
