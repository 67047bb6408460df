/-!
# The command line

The tool takes one script, two options with a file, and three flags. Arguments are read from
left to right. An option's file may stand after an equals sign or in the next argument; flags
of one letter may be joined; after two dashes alone every argument is a script.

A script, and a file that stands in an argument of its own, is looked at only when the next
argument has been recognised. So an argument that is not known at all is reported before a
fault of the value that precedes it.
-/

namespace GuardedScript.CommandLine

/-- What the tool is asked to do. -/
structure Options where
  script : String
  bindings : Option String := none
  transcript : Option String := none
  verbose : Bool := false
deriving DecidableEq, Repr

/-- Why arguments ask for no run. -/
inductive Refusal
  /-- The help text is wanted. -/
  | help
  /-- The version is wanted. -/
  | version
  /-- An argument is not known, or there is a second script. -/
  | unknownArgument
  /-- An option or a flag is given twice. -/
  | repeated
  /-- A value is missing or empty. -/
  | badValue
  /-- A flag is given a value. -/
  | unwantedValue
  /-- There is no script. -/
  | missingScript
deriving DecidableEq, Repr

/-- What a value is given for. -/
inductive Slot
  | script
  | bindings
  | transcript
deriving DecidableEq, Repr

/-- The arguments read so far. -/
structure Draft where
  script : Option String := none
  bindings : Option String := none
  transcript : Option String := none
  verbose : Bool := false
  /-- A slot whose value has not been looked at yet, or not even been seen. -/
  waiting : Option (Slot × Option String) := none
  /-- The script has been seen. -/
  scriptSeen : Bool := false
  /-- No argument is an option any more. -/
  plainOnly : Bool := false
deriving DecidableEq, Repr

namespace Draft

/-- The value in a slot. -/
def value (d : Draft) : Slot → Option String
  | .script => d.script
  | .bindings => d.bindings
  | .transcript => d.transcript

/-- The draft with a value in a slot. -/
def put (d : Draft) (slot : Slot) (text : String) : Draft :=
  match slot with
  | .script => { d with script := some text }
  | .bindings => { d with bindings := some text }
  | .transcript => { d with transcript := some text }

/-- A value is given for a slot, which must be free; the value must not be empty. -/
def assign (d : Draft) (slot : Slot) (text : String) : Except Refusal Draft :=
  if (d.value slot).isSome then .error .repeated
  else if text = "" then .error .badValue
  else .ok (d.put slot text)

/-- The value that waits is looked at. -/
def settle (d : Draft) : Except Refusal Draft :=
  match d.waiting with
  | none => .ok d
  | some (_, none) => .error .badValue
  | some (slot, some text) => { d with waiting := none }.assign slot text

/-- The flag for more log entries. -/
def setVerbose (d : Draft) : Except Refusal Draft := do
  let d ← d.settle
  if d.verbose then .error .repeated else .ok { d with verbose := true }

/-- A flag that ends the reading of arguments. -/
def demand (d : Draft) (refusal : Refusal) : Except Refusal Draft := do
  let _ ← d.settle
  .error refusal

/-- A flag of one letter. -/
def shortFlag (d : Draft) (c : Char) : Except Refusal Draft :=
  match c with
  | 'v' => d.setVerbose
  | 'h' => d.demand .help
  | 'V' => d.demand .version
  | _ => .error .unknownArgument

/-- An option that takes a value, which may be attached to it. -/
def option (d : Draft) (slot : Slot) (attached : Option String) : Except Refusal Draft := do
  let d ← d.settle
  match attached with
  | some text => d.assign slot text
  | none => .ok { d with waiting := some (slot, none) }

/-- A flag of more than one letter, to which no value may be attached. -/
def longFlag (attached : Option String) (act : Except Refusal Draft) : Except Refusal Draft :=
  if attached.isSome then .error .unwantedValue else act

/-- An argument that begins with two dashes. -/
def long (d : Draft) (name : String) (attached : Option String) : Except Refusal Draft :=
  match name with
  | "bindings" => d.option .bindings attached
  | "transcript" => d.option .transcript attached
  | "verbose" => longFlag attached d.setVerbose
  | "help" => longFlag attached (d.demand .help)
  | "version" => longFlag attached (d.demand .version)
  | _ => .error .unknownArgument

/-- An argument that is the script. There can only be one. -/
def positional (d : Draft) (text : String) : Except Refusal Draft :=
  if d.scriptSeen then .error .unknownArgument
  else do
    let d ← d.settle
    .ok { d with waiting := some (.script, some text), scriptSeen := true }

/-- An argument that is no option: the value of the option before it, or the script. -/
def plain (d : Draft) (text : String) : Except Refusal Draft :=
  match d.plainOnly, d.waiting with
  | false, some (slot, none) => .ok { d with waiting := some (slot, some text) }
  | _, _ => d.positional text

/-- The text before the first equals sign, and the text after it if there is one. -/
def splitValue (text : List Char) : String × Option String :=
  let name := String.ofList (text.takeWhile (· ≠ '='))
  match text.dropWhile (· ≠ '=') with
  | [] => (name, none)
  | _ :: value => (name, some (String.ofList value))

/-- One more argument. -/
def step (d : Draft) (arg : String) : Except Refusal Draft :=
  if d.plainOnly then d.plain arg
  else
    match arg.toList with
    | ['-', '-'] => .ok { d with plainOnly := true }
    | '-' :: '-' :: rest => d.long (splitValue rest).1 (splitValue rest).2
    | '-' :: c :: rest => (c :: rest).foldlM shortFlag d
    | _ => d.plain arg

/-- The options, after the last argument. -/
def finish (d : Draft) : Except Refusal Options := do
  let d ← d.settle
  match d.script with
  | some script => .ok ⟨script, d.bindings, d.transcript, d.verbose⟩
  | none => .error .missingScript

end Draft

/-- The options that arguments give. -/
def parse (args : List String) : Except Refusal Options :=
  args.foldlM Draft.step {} >>= Draft.finish

/-- The lines of the help text. -/
def helpLines : List String :=
  ["Usage: gscript [OPTIONS] <SCRIPT>",
    "",
    "Arguments:",
    "  <SCRIPT>  Script file to run",
    "",
    "Options:",
    "      --bindings <BINDINGS>      JSON object with the initial variable bindings",
    "      --transcript <TRANSCRIPT>  Write every executed instruction and its result to this JSON file",
    "  -v, --verbose                  Log every dispatched instruction",
    "  -h, --help                     Print help",
    "  -V, --version                  Print version"]

/-- The help text. -/
def helpText : String :=
  String.join (helpLines.map (· ++ "\n"))

/-- The version. -/
def versionText : String :=
  "gscript 0.1.0\n"

end GuardedScript.CommandLine
