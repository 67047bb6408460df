import GuardedScript.Log
import GuardedScript.Log.Pattern

/-!
# Directives

A directive says up to which level of detail entries are shown, and of which entries it says so:
those under a target, in a scope and with a field. It is written

    target[scope{field=value}]=level

where every part may be left out, and a level may stand alone. Without a level everything is
shown.

The marks between the parts are looked for in the text without the blank characters around it,
but the parts are cut from the whole text, at the same distances from its beginning. So a blank
character in front of a directive counts as part of the first name in it, and pushes the last
character out of it.
-/

namespace GuardedScript.Log

/-! ### Levels of detail -/

/-- How detailed a level is. -/
def Level.detail : Level → Nat
  | error => 1
  | warn => 2
  | info => 3
  | debug => 4

/-- A field that entries are asked to have. -/
structure Field where
  name : String
  /-- A value is asked for as well. -/
  valued : Bool
deriving DecidableEq, Repr

/-- The detail at which everything is shown. -/
def everything : Nat :=
  5

/-- Entries under a target, in a scope and with a field are shown up to a level of detail. Every
target begins with the empty one. -/
structure Directive where
  target : String := ""
  scope : Option String := none
  field : Option Field := none
  detail : Nat := everything
deriving DecidableEq, Repr

namespace Directive

/-- The names of the levels of detail, from nothing to everything. -/
def levelNames : List String :=
  ["off", "error", "warn", "info", "debug", "trace"]

/-- The text in lower case. -/
def lower (text : List Char) : String :=
  String.ofList (text.map Char.toLower)

/-- The level of detail that a number gives; a sign may stand before it. -/
def ofNumber? (text : List Char) : Option Nat :=
  let digits := if text.head? = some '+' then text.tail else text
  if !digits.isEmpty && digits.all Char.isDigit then
    let n := Nat.ofDigitChars 10 digits 0
    if n ≤ everything then some n else none
  else none

/-- The level of detail that a name or a number gives. -/
def detail? (text : String) : Option Nat :=
  (ofNumber? text.toList).or (levelNames.idxOf? (lower text.toList))

/-! ### Fields -/

/-- The text is the exponent of a number, or nothing. -/
def isExponent : List Char → Bool
  | [] => true
  | c :: rest =>
    let signed := rest.head? = some '+' || rest.head? = some '-'
    let digits := if signed then rest.tail else rest
    (c = 'e' || c = 'E') && !digits.isEmpty && digits.all Char.isDigit

/-- The text is a number without a sign: digits, with a point before, between or after them, and
an exponent. -/
def isDecimal (text : List Char) : Bool :=
  let whole := text.takeWhile Char.isDigit
  let after := text.dropWhile Char.isDigit
  let pointed := after.head? = some '.'
  let fraction := if pointed then after.tail.takeWhile Char.isDigit else []
  let rest := if pointed then after.tail.dropWhile Char.isDigit else after
  !(whole.isEmpty && fraction.isEmpty) && isExponent rest

/-- The text is a number. -/
def isNumber (text : List Char) : Bool :=
  let signed := text.head? = some '+' || text.head? = some '-'
  let body := if signed then text.tail else text
  ["inf", "infinity", "nan"].contains (lower body) || isDecimal body

/-- The field that a text asks for: a name, and after an equals sign a number or a pattern. What
follows another equals sign is of no account. -/
def field? (text : String) : Option Field :=
  match text.toList.splitOn '=' with
  | name :: value :: _ =>
    if isNumber value || Pattern.isWellFormed value then some ⟨String.ofList name, true⟩ else none
  | _ => some ⟨text, false⟩

/-! ### Reading -/

/-- What is being read of a directive, and at which byte it begins. -/
inductive Part
  /-- Nothing has been read. -/
  | nothing
  /-- The target, or a level that stands alone. -/
  | head
  /-- The scope. -/
  | scope (first : Nat)
  /-- The field. -/
  | field (first : Nat)
  /-- The bracket after a field. -/
  | bracket
  /-- The equals sign before the level. -/
  | sign
  /-- The level. -/
  | level (first : Nat)
deriving DecidableEq, Repr

/-- A directive being read. -/
structure Reading where
  part : Part := .nothing
  directive : Directive := {}
deriving DecidableEq, Repr

/-- A directive may begin with this character. -/
def begins (c : Char) : Bool :=
  c = '-' || c = ':' || c = '_' || Text.isLetterOrNumber c

/-- The bytes from the first to the last, if they are a text. -/
def cut? (text : String) (first last : Nat) : Option String :=
  String.fromUTF8? (text.toUTF8.extract first last)

/-- The target has been read, up to a byte. -/
def Reading.withTarget? (text : String) (last : Nat) (next : Part) : Option Reading :=
  (cut? text 0 last).map fun target => ⟨next, { target }⟩

/-- One more character is read, of a directive that is cut from a text. -/
def Reading.step? (text : String) (r : Reading) (offset : Nat) (c : Char) : Option Reading :=
  match r.part, c with
  | .nothing, '[' => some { r with part := .scope (offset + 1) }
  | .nothing, c => if begins c then some { r with part := .head } else none
  | .head, '=' => Reading.withTarget? text offset (.level (offset + 1))
  | .head, '[' => Reading.withTarget? text offset (.scope (offset + 1))
  | .head, _ => some r
  | .scope first, ']' =>
    (cut? text first offset).map fun scope =>
      ⟨.sign, { r.directive with scope := some scope }⟩
  | .scope first, '\x7b' =>
    (cut? text first offset).map fun scope =>
      ⟨.field (offset + 1),
        { r.directive with scope := if scope.isEmpty then none else some scope }⟩
  | .scope _, _ => some r
  | .field first, '\x7d' =>
    ((cut? text first offset).bind fun written =>
      if written.isEmpty then none else field? written).map fun field =>
        ⟨.bracket, { r.directive with field := some field }⟩
  | .field _, _ => some r
  | .bracket, ']' => some { r with part := .sign }
  | .bracket, _ => none
  | .sign, '=' => some { r with part := .level (offset + 1) }
  | .sign, _ => none
  | .level _, _ => some r

/-- The characters from an offset on are read. -/
def Reading.run? (text : String) : Reading → Nat → List Char → Option Reading
  | r, _, [] => some r
  | r, offset, c :: rest =>
    match r.step? text offset c with
    | some next => next.run? text (offset + c.utf8Size) rest
    | none => none

/-- The directive, when all has been read. -/
def Reading.finish? (text : String) (r : Reading) : Option Directive :=
  match r.part with
  | .head =>
    match detail? text with
    | some detail => some { detail }
    | none => some { target := text }
  | .level first =>
    match cut? text first text.utf8ByteSize with
    | some "" => some r.directive
    | some level => (detail? level).map fun detail => { r.directive with detail }
    | none => none
  | .sign => some r.directive
  | _ => none

/-- The directive that a text gives. -/
def ofString? (text : String) : Option Directive :=
  (Reading.run? text {} 0 (Text.trim text.toList)).bind (Reading.finish? text)

/-! ### Entries -/

/-- The name of the one field that an entry has: its message. -/
def messageField : String :=
  "message"

/-- The directive says something of an entry. Entries stand in no scope, and the value of their
field is never looked at. -/
def appliesTo (d : Directive) (e : Entry) : Bool :=
  d.scope.isNone && d.field.all (fun f => f.name = messageField && !f.valued) &&
    d.target.toList.isPrefixOf e.source.target.toList

/-- Of two directives that say something of an entry, the one of higher rank decides: the one
with the longer target, and of the same target the one with a field. -/
def rank (d : Directive) : Nat :=
  2 * d.target.length + if d.field.isSome then 1 else 0

end Directive

end GuardedScript.Log
