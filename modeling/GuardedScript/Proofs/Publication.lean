import GuardedScript.Proofs.Dictionaries
import GuardedScript.Proofs.Provenance
import GuardedScript.Proofs.RoundTrip
import GuardedScript.Tool

/-!
# What a run of the tool leaves behind

A run of the tool is all or nothing up to the point where it writes. If an input cannot be read
or the script is in error, then nothing is printed, and every file is as it was. Otherwise the
lines that the script wrote are printed, and at most one file changes: the one in which the
transcript is saved. What the script did depends on the files as they were before, so it makes no
difference whether the transcript takes the place of an input.

The saved text is the indented form of the array of the executed instructions. All values in it are
strings, replies of commands or values of the bindings, so it is read back as that array whenever
the bindings leave room for it.
-/

namespace GuardedScript

namespace Files

variable {fs : Files}

/-! ### Following a path after a file has changed -/

/-- A step starts from a directory. -/
theorem node?_of_step {location next : Location} {s : Path.Step}
    (h : fs.step location s = .ok next) :
  fs.node? location = some .directory
  := by
  rw [step.eq_def] at h
  split at h
  · cases h
  · cases h
  · assumption
  · assumption

/-- A step depends only on what stands where it starts. -/
theorem step_congr {fs' : Files} {location : Location} (h : fs'.node? location = fs.node? location)
    (s : Path.Step) :
  fs'.step location s = fs.step location s
  := by
  rw [step.eq_def, step.eq_def, h]

/-- Where there is no directory, something can be put without getting in the way of a path. -/
theorem walk_put {location : Location} (h : fs.node? location ≠ some .directory) (node : Node)
    {start finish : Location} {steps : List Path.Step} (hwalk : fs.walk start steps = .ok finish) :
  (fs.put location node).walk start steps = .ok finish
  := by
  induction steps generalizing start with
  | nil => apply hwalk
  | cons s rest ih =>
    rw [walk] at hwalk ⊢
    split at hwalk
    · rename_i next hstep
      have hdirectory := node?_of_step hstep
      have hne : start ≠ location := by
        rintro rfl
        apply h hdirectory
      rw [step_congr (node?_put_of_ne fs node hne), hstep]
      apply ih hwalk
    · cases hwalk

/-! ### Creating files -/

/-- A file can be created at the path, and it will stand at the location. A file that stands there
is replaced. -/
structure Creates (fs : Files) (path : String) (location : Location) : Prop where
  placed : fs.placed path = .ok location
  free : fs.node? location ≠ some .directory

/-- What is created at a path is read at that path. -/
theorem Creates.located {path : String} {location : Location} (creates : fs.Creates path location) :
  fs.located path = .ok location
  := by
  have hplaced := creates.placed
  rw [Files.placed] at hplaced
  rw [Files.located]
  split at hplaced
  · cases hplaced
  · split at hplaced
    · split at hplaced
      · cases hplaced
      · cases hplaced
    · rename_i hopen
      rw [Path.stepsToRead, if_neg hopen]
      apply hplaced

theorem Creates.ne_nil {path : String} {location : Location} (creates : fs.Creates path location) :
  location ≠ []
  := by
  rintro rfl
  apply creates.free rfl

theorem Creates.write_eq {path : String} {location : Location} (creates : fs.Creates path location)
    (text : String) :
  fs.write path text = .ok (fs.put location (.file text.toUTF8))
  := by
  rw [write, creates.placed]
  dsimp only
  split
  · rename_i hdirectory
    apply absurd hdirectory creates.free
  · rfl

/-- A text that has been written to a path is read there. -/
theorem Creates.read_put {path : String} {location : Location} (creates : fs.Creates path location)
    (text : String) :
  (fs.put location (.file text.toUTF8)).read path = .ok text
  := by
  have hlocated : (fs.put location (.file text.toUTF8)).located path = .ok location := by
    have hlocated := creates.located
    rw [Files.located] at hlocated ⊢
    split at hlocated
    · cases hlocated
    · apply walk_put creates.free _ hlocated
  rw [read, hlocated]
  apply textAt_put_self fs text creates.ne_nil

/-- A path at which no file can be created is not written to. -/
theorem write_of_not_creates {path : String} (h : ∀ location, ¬ fs.Creates path location)
    (text : String) :
  ∃ fault, fs.write path text = .error fault
  := by
  rw [write]
  split
  · rename_i fault hplaced
    use fault
  · rename_i location hplaced
    split
    · use .isDirectory
    · rename_i hfree
      apply absurd ⟨hplaced, hfree⟩ (h location)

end Files

namespace Tool

open CommandLine (Options)

variable {fs : Files} {o : Options}

/-! ### Inputs -/

/-- The files give the script and the bindings that the options ask for. The bindings are the
members of the object that their file holds; if the options name no file, there are none. -/
inductive Inputs (fs : Files) (o : Options) : String → Dict Value → Prop
  | alone {script : String} (hscript : fs.read o.script = .ok script) (hnone : o.bindings = none) :
    Inputs fs o script []
  | bound {script path text : String} {bindings : Dict Value}
    (hscript : fs.read o.script = .ok script) (hpath : o.bindings = some path)
    (htext : fs.read path = .ok text) (hobject : Value.read text.toList = .ok (.obj bindings)) :
    Inputs fs o script bindings

/-- Why a run of the tool comes to nothing: the script cannot be read, the file of the bindings
cannot be read, is no JSON document or holds a value that is no object, or the script is in
error. -/
inductive Refused (fs : Files) (o : Options) : Fault → Prop
  | script {fault : Files.Fault} (hscript : fs.read o.script = .error fault) :
    Refused fs o (.reading o.script fault)
  | unread {script path : String} {fault : Files.Fault} (hscript : fs.read o.script = .ok script)
    (hpath : o.bindings = some path) (htext : fs.read path = .error fault) :
    Refused fs o (.reading path fault)
  | malformed {script path text : String} {fault : Value.Fault}
    (hscript : fs.read o.script = .ok script) (hpath : o.bindings = some path)
    (htext : fs.read path = .ok text) (hvalue : Value.read text.toList = .error fault) :
    Refused fs o (.parsing path (.json fault))
  | notObject {script path text : String} {found : Value}
    (hscript : fs.read o.script = .ok script) (hpath : o.bindings = some path)
    (htext : fs.read path = .ok text) (hvalue : Value.read text.toList = .ok found)
    (hfound : ∀ members, found ≠ .obj members) :
    Refused fs o (.parsing path (.notObject found))
  | failed {script : String} {bindings : Dict Value} {error : ScriptError}
    (inputs : Inputs fs o script bindings)
    (hresult : (Workspace.host.run (.new bindings) script).result = .error error) :
    Refused fs o (.running o.script error)

theorem job_of_inputs {script : String} {bindings : Dict Value}
    (inputs : Inputs fs o script bindings) :
  job fs.read o = .ok ⟨script, bindings⟩
  := by
  cases inputs with
  | alone hscript hnone => simp [job, hscript, hnone]
  | bound hscript hpath htext hobject =>
    simp [job, bindingsOf, Bindings.load, hscript, hpath, htext, hobject]

/-- A run of the tool comes to nothing, or it has its inputs. -/
theorem refused_or_inputs (fs : Files) (o : Options) :
  (∃ fault, Refused fs o fault) ∨ ∃ script bindings, Inputs fs o script bindings
  := by
  cases hscript : fs.read o.script with
  | error fault => exact .inl ⟨_, .script hscript⟩
  | ok script =>
    cases hpath : o.bindings with
    | none => exact .inr ⟨_, _, .alone hscript hpath⟩
    | some path =>
      cases htext : fs.read path with
      | error fault => exact .inl ⟨_, .unread hscript hpath htext⟩
      | ok text =>
        cases hvalue : Value.read text.toList with
        | error fault => exact .inl ⟨_, .malformed hscript hpath htext hvalue⟩
        | ok found =>
          by_cases hfound : ∃ members, found = .obj members
          · obtain ⟨members, rfl⟩ := hfound
            exact .inr ⟨_, _, .bound hscript hpath htext hvalue⟩
          · exact .inl ⟨_, .notObject hscript hpath htext hvalue (not_exists.mp hfound)⟩

/-- A run of the tool comes to nothing, or it has its inputs and the script ends without an
error. -/
theorem refused_or_ends (fs : Files) (o : Options) :
  (∃ fault, Refused fs o fault)
    ∨ ∃ script bindings outcome, Inputs fs o script bindings
      ∧ (Workspace.host.run (.new bindings) script).result = .ok outcome
  := by
  rcases refused_or_inputs fs o with refused | ⟨script, bindings, inputs⟩
  · exact .inl refused
  · cases hresult : (Workspace.host.run (.new bindings) script).result with
    | error error => exact .inl ⟨_, .failed inputs hresult⟩
    | ok outcome => exact .inr ⟨script, bindings, outcome, inputs, hresult⟩

/-! ### Products -/

theorem produce_of_refused {fault : Fault} (refused : Refused fs o fault) :
  (produce fs.read o).1 = .error fault
  := by
  cases refused with
  | script hscript => simp [produce, job, hscript]
  | unread hscript hpath htext => simp [produce, job, bindingsOf, hscript, hpath, htext]
  | malformed hscript hpath htext hvalue =>
    simp [produce, job, bindingsOf, Bindings.load, hscript, hpath, htext, hvalue]
  | notObject hscript hpath htext hvalue hfound =>
    simp [produce, job, bindingsOf, Bindings.load_of_not_object hvalue hfound, hscript, hpath,
      htext]
  | failed inputs hresult => simp [produce, job_of_inputs inputs, Job.run, hresult]

theorem produce_of_inputs {script : String} {bindings : Dict Value} {outcome : Outcome}
    (inputs : Inputs fs o script bindings)
    (hresult : (Workspace.host.run (.new bindings) script).result = .ok outcome) :
  (produce fs.read o).1 = .ok ⟨outcome, (Workspace.host.run (.new bindings) script).state⟩
  := by
  simp [produce, job_of_inputs inputs, Job.run, hresult]

/-- Without a product nothing is printed or saved. -/
theorem run_of_error {fault : Fault} (h : (produce fs.read o).1 = .error fault) :
  (run o fs).result = .error fault ∧ (run o fs).output = "" ∧ (run o fs).files = fs
  := by
  rw [run]
  split
  · rename_i other log hproduce
    rw [hproduce] at h
    obtain rfl := Except.error.inj h
    exact ⟨rfl, rfl, rfl⟩
  · rename_i product log hproduce
    rw [hproduce] at h
    cases h

/-- With a product its lines are printed. Without a path for the transcript no file changes;
otherwise it depends on whether the transcript can be written. -/
theorem run_of_ok {product : Product} (h : (produce fs.read o).1 = .ok product) :
  (run o fs).output = product.output
    ∧ (o.transcript = none →
      (run o fs).result = .ok product.outcome ∧ (run o fs).files = fs)
    ∧ ∀ path, o.transcript = some path →
      (∀ fs', fs.write path product.transcript = .ok fs' →
        (run o fs).result = .ok product.outcome ∧ (run o fs).files = fs')
      ∧ ∀ fault, fs.write path product.transcript = .error fault →
        (run o fs).result = .error (.creating path fault) ∧ (run o fs).files = fs
  := by
  obtain ⟨log, hproduce⟩ : ∃ log, produce fs.read o = (.ok product, log) :=
    ⟨(produce fs.read o).2, by rw [← h]⟩
  cases htranscript : o.transcript with
  | none => simp [run, hproduce, htranscript]
  | some path =>
    cases hwrite : fs.write path product.transcript with
    | error fault => simp [run, hproduce, htranscript, hwrite]
    | ok fs' => simp [run, hproduce, htranscript, hwrite]

/-! ### What is saved -/

/-- The text tells of the executed instructions: it is the indented form of the array of their
entries, each with the members components, result and aborted. If the bindings hold no
floating-point numbers and leave room for the three containers around a component, then it is read
as that array, each entry with its members in the order of their keys. -/
structure Saves (bindings : Dict Value) (entries : List Transcript.Entry) (text : String) :
    Prop where
  indented : text.toList = (Value.arr (entries.map fun e => .obj [("components",
    .arr e.components), ("result", e.result), ("aborted", .bool e.aborted)])).indented 0
  read : (∀ m ∈ bindings, m.2.FloatFree ∧ m.2.depth ≤ 124) →
    Value.read text.toList = .ok (.arr (entries.map fun e => .obj [("aborted", .bool e.aborted),
      ("components", .arr e.components), ("result", e.result)]))

/-- The values of the bindings are ordered, because they were read. -/
theorem Inputs.ordered {script : String} {bindings : Dict Value}
    (inputs : Inputs fs o script bindings) :
  ∀ m ∈ bindings, m.2.Ordered
  := by
  cases inputs with
  | alone hscript hnone => apply List.forall_mem_nil
  | bound hscript hpath htext hobject =>
    cases Value.ordered_of_read hobject with
    | obj hmembers ascending => apply hmembers

/-- Values that arise from the bindings fit into a transcript if those of the bindings do. -/
theorem fits_of_arises {bindings : Dict Value} (hordered : ∀ m ∈ bindings, m.2.Ordered)
    (hbindings : ∀ m ∈ bindings, m.2.FloatFree ∧ m.2.depth ≤ 124) {v : Value}
    (arises : v.Arises bindings) :
  v.FloatFree ∧ v.Ordered ∧ v.depth ≤ 124
  := by
  cases arises with
  | null => exact ⟨.null, .null, Nat.zero_le 124⟩
  | bool b => exact ⟨.bool b, .bool b, Nat.zero_le 124⟩
  | str s => exact ⟨.str s, .str s, Nat.zero_le 124⟩
  | bound hm => exact ⟨(hbindings _ hm).1, hordered _ hm, (hbindings _ hm).2⟩

/-- What a run writes as its transcript tells of the instructions that it executed. -/
theorem saves_write {script : String} {bindings : Dict Value}
    (inputs : Inputs fs o script bindings) :
  let entries := (Workspace.host.run (.new bindings) script).state.transcript
  Saves bindings entries (String.ofList (Transcript.write entries))
  := by
  intro entries
  have arises := Workspace.arises_run bindings script
  constructor
  · rw [String.toList_ofList]
    rfl
  · intro hbindings
    rw [String.toList_ofList]
    apply Transcript.read_indented_toValue
    intro e he
    constructor
    · intro v hv
      apply fits_of_arises inputs.ordered hbindings (arises.components e he v hv)
    · obtain ⟨free, ordered, hdepth⟩ :=
        fits_of_arises inputs.ordered hbindings (arises.results e he)
      exact ⟨free, ordered, Nat.le_succ_of_le hdepth⟩

/-! ### All or nothing -/

/-- A run of the tool is all or nothing up to the point where it writes. If an input cannot be read,
the bindings are no object or the script is in error, then this is the fault that is reported,
nothing is printed, and every file is as it was. Otherwise the lines that the script wrote on a new
workspace with the bindings are printed, each with a line feed. If there is no path for the
transcript, no file changes. If a file can be created there, then its text tells of all executed
instructions, all other locations are as they were, and the result is that of the script; if not,
the fault is reported and every file is as it was. The inputs are those before the run, whatever the
path for the transcript is. -/
theorem run_all_or_nothing (o : Options) (fs : Files) :
  ((∃ fault, Refused fs o fault) ∨ ∃ script bindings outcome, Inputs fs o script bindings
      ∧ (Workspace.host.run (.new bindings) script).result = .ok outcome)
    ∧ (∀ fault, Refused fs o fault →
      (run o fs).result = .error fault ∧ (run o fs).output = "" ∧ (run o fs).files = fs)
    ∧ ∀ script bindings outcome, Inputs fs o script bindings →
      (Workspace.host.run (.new bindings) script).result = .ok outcome →
      let w := (Workspace.host.run (.new bindings) script).state
      (run o fs).output = String.join (w.output.map (· ++ "\n"))
        ∧ (o.transcript = none → (run o fs).result = .ok outcome ∧ (run o fs).files = fs)
        ∧ ∀ path, o.transcript = some path →
          (∀ location, fs.Creates path location →
            (run o fs).result = .ok outcome
            ∧ (∃ text, (run o fs).files.read path = .ok text ∧ Saves bindings w.transcript text)
            ∧ (run o fs).files.home = fs.home
            ∧ ∀ other, other ≠ location → (run o fs).files.node? other = fs.node? other)
          ∧ ((∀ location, ¬ fs.Creates path location) →
            (∃ fault, (run o fs).result = .error (.creating path fault))
            ∧ (run o fs).files = fs)
  := by
  constructor
  · apply refused_or_ends
  · constructor
    · intro fault refused
      apply run_of_error (produce_of_refused refused)
    · intro script bindings outcome inputs hresult w
      obtain ⟨houtput, hnone, hsome⟩ := run_of_ok (produce_of_inputs inputs hresult)
      use houtput, hnone
      intro path hpath
      obtain ⟨hwritten, hfault⟩ := hsome path hpath
      constructor
      · intro location creates
        obtain ⟨hok, hfiles⟩ := hwritten _ (creates.write_eq _)
        rw [hfiles]
        use hok, ⟨_, creates.read_put _, saves_write inputs⟩, rfl
        intro other hne
        apply Files.node?_put_of_ne fs _ hne
      · intro hcreates
        obtain ⟨fault, hwrite⟩ := Files.write_of_not_creates hcreates _
        obtain ⟨herror, hfiles⟩ := hfault fault hwrite
        exact ⟨⟨fault, herror⟩, hfiles⟩

/-- The transcript takes the place of the bindings of a run that stops before the end of its script.
Nothing is printed and no file changes if there is no script, if the bindings are no document or no
object, or if a variable is not defined, although a line was written before. -/
theorem run_all_or_nothing_alias :
  let script := "echo a; echo $x; abort; echo b;"
  let fs := (((Files.bare []).put ["s"] (.file script.toUTF8)).put ["b"]
    (.file "\x7b\"x\": 7\x7d".toUTF8)).put ["l"] (.file "[]".toUTF8)
  let seven := Value.num (.int ⟨7, by decide, by decide⟩)
  let o : Options := { script := "s", bindings := some "b", transcript := some "b" }
  let saved := "\n".intercalate ["[", "  \x7b", "    \"components\": [", "      \"echo\",",
    "      \"a\"", "    ],", "    \"result\": true,", "    \"aborted\": false", "  \x7d,", "  \x7b",
    "    \"components\": [", "      \"echo\",", "      7", "    ],", "    \"result\": true,",
    "    \"aborted\": false", "  \x7d,", "  \x7b", "    \"components\": [", "      \"abort\"",
    "    ],", "    \"result\": null,", "    \"aborted\": true", "  \x7d", "]"]
  (Inputs fs o script [("x", seven)] ∧ fs.Creates "b" ["b"]
      ∧ (run o fs).result = .ok .aborted ∧ (run o fs).output = "a\n7\n"
      ∧ (run o fs).files.read "b" = .ok saved
      ∧ Value.read saved.toList = .ok (.arr [
        .obj [("aborted", .bool false), ("components", .arr [.str "echo", .str "a"]),
          ("result", .bool true)],
        .obj [("aborted", .bool false), ("components", .arr [.str "echo", seven]),
          ("result", .bool true)],
        .obj [("aborted", .bool true), ("components", .arr [.str "abort"]), ("result", .null)]]))
    ∧ ∀ wrong ∈ [({ o with script := "t" }, Fault.reading "t" .missing),
        ({ o with bindings := some "s" }, .parsing "s" (.json .malformed)),
        ({ o with bindings := some "l" }, .parsing "l" (.notObject (.arr []))),
        ({ o with bindings := none }, .running "s" (.undefined "x" ⟨1, 16⟩))],
      Refused fs wrong.1 wrong.2 ∧ (run wrong.1 fs).result = .error wrong.2
        ∧ (run wrong.1 fs).output = "" ∧ (run wrong.1 fs).files = fs
  := by
  intro script fs seven o saved
  have hscript : fs.read "s" = .ok script := by
    simp only [fs, script]
    rfl
  constructor
  · have inputs : Inputs fs o script [("x", seven)] := by
      have htext : fs.read "b" = .ok "\x7b\"x\": 7\x7d" := by rfl
      exact .bound hscript rfl htext rfl
    have creates : fs.Creates "b" ["b"] := ⟨rfl, by rintro ⟨⟩⟩
    have hhalt : (Workspace.host.run (.new [("x", seven)]) script).halt = some .aborted := by
      decide +kernel
    have aborted : (Workspace.host.run (.new [("x", seven)]) script).result = .ok .aborted := by
      rw [Scan.result, hhalt]
    have hlines : (Workspace.host.run (.new [("x", seven)]) script).state.output = ["a", "7"] := by
      decide +kernel
    have htranscript : (Workspace.host.run (.new [("x", seven)]) script).state.transcript
        = [⟨[.str "echo", .str "a"], .bool true, false⟩, ⟨[.str "echo", seven], .bool true, false⟩,
          ⟨[.str "abort"], .null, true⟩] := by
      simp only [script, seven]
      rfl
    obtain ⟨-, -, hinputs⟩ := run_all_or_nothing o fs
    obtain ⟨houtput, -, hsaved⟩ := hinputs _ _ _ inputs aborted
    obtain ⟨hresult, ⟨text, hread, saves⟩, -⟩ := (hsaved "b" rfl).1 _ creates
    rw [hlines] at houtput
    rw [htranscript] at saves
    -- Line by line, so that the text is never taken apart as a whole.
    obtain rfl : text = saved := by
      apply String.toList_injective
      rw [saves.indented, String.toList_intercalate]
      decide +kernel
    use inputs, creates, hresult, houtput, hread
    apply saves.read
    intro m hm
    obtain rfl := List.mem_singleton.mp hm
    exact ⟨.int _, Nat.zero_le 124⟩
  · have lost : Refused fs { o with script := "t" } (.reading "t" .missing) := by
      have htext : fs.read "t" = .error .missing := by rfl
      exact .script htext
    have garbled : Refused fs { o with bindings := some "s" } (.parsing "s" (.json .malformed)) := by
      apply Refused.malformed hscript rfl hscript
      simp only [script]
      rfl
    have listed : Refused fs { o with bindings := some "l" }
        (.parsing "l" (.notObject (.arr []))) := by
      have htext : fs.read "l" = .ok "[]" := by rfl
      exact .notObject hscript rfl htext rfl (by rintro members ⟨⟩)
    have unbound : Refused fs { o with bindings := none }
        (.running "s" (.undefined "x" ⟨1, 16⟩)) := by
      have hhalt : (Workspace.host.run (.new []) script).halt
          = some (.failed (.undefined "x" ⟨1, 16⟩)) := by
        decide +kernel
      apply Refused.failed (.alone hscript rfl)
      rw [Scan.result, hhalt]
    intro wrong hwrong
    have refused : Refused fs wrong.1 wrong.2 := by
      revert wrong
      simp only [List.forall_mem_cons]
      exact ⟨lost, garbled, listed, unbound, List.forall_mem_nil _⟩
    exact ⟨refused, (run_all_or_nothing wrong.1 fs).2.1 _ refused⟩

end Tool

end GuardedScript
