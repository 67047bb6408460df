import GuardedScript.Path

/-!
# Files

The files that the tool reads and writes: what stands at each location, and the directory at
which paths start. A path is followed step by step, and every step needs a directory to start
from; so the first thing in the way decides which fault is found.
-/

namespace GuardedScript

/-- What stands at a location. -/
inductive Node
  | file (bytes : ByteArray)
  | directory

/-- What stands at each location below the root, and the working directory. -/
structure Files where
  home : Location
  entries : Location → Option Node

namespace Files

/-- Why a file cannot be read or written. -/
inductive Fault
  /-- There is nothing at the path. -/
  | missing
  /-- A name on the way is that of a file. -/
  | notDirectory
  /-- At the path is a directory. -/
  | isDirectory
  /-- The path, or a name in it, has too many bytes. -/
  | tooLong
  /-- The path holds the character with the number zero. -/
  | zeroCharacter
  /-- The bytes of the file are no text. -/
  | notText
  /-- The system gives another reason. -/
  | other (reason : String)
deriving DecidableEq, Repr

/-- The fault in words. -/
def Fault.message : Fault → String
  | missing => "No such file or directory (os error 2)"
  | notDirectory => "Not a directory (os error 20)"
  | isDirectory => "Is a directory (os error 21)"
  | tooLong => "File name too long (os error 36)"
  | zeroCharacter => "file name contained an unexpected NUL byte"
  | notText => "stream did not contain valid UTF-8"
  | other reason => reason

/-! ### Following a path -/

/-- A path has fewer bytes than this. -/
def pathLimit : Nat :=
  4096

/-- A name has at most this many bytes. -/
def nameLimit : Nat :=
  255

/-- The path that a text describes, if it can be followed at all. -/
def pathOf (text : String) : Except Fault Path :=
  if text.toList.contains '\x00' then .error .zeroCharacter
  else if pathLimit ≤ text.utf8ByteSize then .error .tooLong
  else if text.isEmpty then .error .missing
  else .ok (.ofString text)

/-- The root is a directory. -/
def node? (fs : Files) (location : Location) : Option Node :=
  if location.isEmpty then some .directory else fs.entries location

/-- One step from a location, which has to be that of a directory. -/
def step (fs : Files) (location : Location) (s : Path.Step) : Except Fault Location :=
  match fs.node? location, s with
  | none, _ => .error .missing
  | some (.file _), _ => .error .notDirectory
  | some .directory, .name text =>
    if nameLimit < text.utf8ByteSize then .error .tooLong else .ok (s.after location)
  | some .directory, s => .ok (s.after location)

/-- Several steps from a location. -/
def walk (fs : Files) (location : Location) : List Path.Step → Except Fault Location
  | [] => .ok location
  | s :: rest =>
    match fs.step location s with
    | .ok next => fs.walk next rest
    | .error fault => .error fault

/-! ### Reading -/

/-- The location of what is read at a path. -/
def located (fs : Files) (path : String) : Except Fault Location :=
  match pathOf path with
  | .error fault => .error fault
  | .ok p => fs.walk (p.start fs.home) p.stepsToRead

/-- The text of what stands at a location. -/
def textAt (fs : Files) (location : Location) : Except Fault String :=
  match fs.node? location with
  | none => .error .missing
  | some .directory => .error .isDirectory
  | some (.file bytes) =>
    match String.fromUTF8? bytes with
    | some text => .ok text
    | none => .error .notText

/-- The text of the file at a path. -/
def read (fs : Files) (path : String) : Except Fault String :=
  match fs.located path with
  | .error fault => .error fault
  | .ok location => fs.textAt location

/-! ### Writing -/

/-- The files with something at a location. -/
def put (fs : Files) (location : Location) (node : Node) : Files :=
  { fs with entries := fun other => if other = location then some node else fs.entries other }

/-- What is put somewhere other than at the root stands there. -/
theorem node?_put_self (fs : Files) {location : Location} (node : Node) (h : location ≠ []) :
  (fs.put location node).node? location = some node
  := by
  simp [node?, put, h]

/-- What is put somewhere changes nothing elsewhere. -/
theorem node?_put_of_ne (fs : Files) {location other : Location} (node : Node)
    (h : other ≠ location) :
  (fs.put location node).node? other = fs.node? other
  := by
  simp [node?, put, h]

/-- A text that is put somewhere other than at the root is read there. -/
theorem textAt_put_self (fs : Files) {location : Location} (text : String)
    (h : location ≠ []) :
  (fs.put location (.file text.toUTF8)).textAt location = .ok text
  := by
  have hvalid := text.isValidUTF8
  rw [textAt, node?_put_self fs _ h]
  simp only [String.fromUTF8?, String.toUTF8_eq_toByteArray, hvalid, dif_pos]
  rfl

/-- The location at which a path creates a file. A path that ends with a slash creates none. -/
def placed (fs : Files) (path : String) : Except Fault Location :=
  match pathOf path with
  | .error fault => .error fault
  | .ok p =>
    if p.closed then
      match fs.walk (p.start fs.home) p.stepsToParent with
      | .error fault => .error fault
      | .ok _ => .error .isDirectory
    else fs.walk (p.start fs.home) p.steps

/-- The files with a text at a path, in place of the file that was there. The directory around
it must exist. -/
def write (fs : Files) (path : String) (text : String) : Except Fault Files :=
  match fs.placed path with
  | .error fault => .error fault
  | .ok location =>
    match fs.node? location with
    | some .directory => .error .isDirectory
    | _ => .ok (fs.put location (.file text.toUTF8))

/-! ### Given files -/

/-- The working directory and the directories above it, and nothing else. -/
def bare (home : Location) : Files where
  home
  entries location := if location.isPrefixOf home then some .directory else none

/-- The files with something at a path, and directories above it where there is nothing. -/
def plant (fs : Files) (path : String) (node : Node) : Files :=
  let location := (Path.ofString path).target fs.home
  let above := (List.range location.length).map location.take
  let founded := above.foldl (fun fs directory =>
    if (fs.node? directory).isSome then fs else fs.put directory .directory) fs
  founded.put location node

/-- The files that stand at the given paths, for someone who works in a directory. -/
def ofList (home : Location) (nodes : List (String × Node)) : Files :=
  nodes.foldl (fun fs entry => fs.plant entry.1 entry.2) (bare home)

end Files

end GuardedScript
