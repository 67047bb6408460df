import GuardedScript.Value.Fault

/-!
# Quoted strings

The text of a string is read character by character, from the character after its opening
quote to its closing quote. A backslash begins an escape: of one letter, or of `u` and four
digits of base sixteen, which name a UTF-16 unit. Two units that form a surrogate pair must
follow each other directly.

Four digits are taken as the next four *bytes* of the text: as long as fewer than four bytes
have followed the `u`, the text could end there, and only after that many is it wrong.
-/

namespace GuardedScript.Value

/-- What has been read since the last whole character of the string. -/
inductive Escape
  /-- Nothing. -/
  | none
  /-- A backslash. -/
  | begun
  /-- The mark of a unit and some characters after it, latest first. The unit comes second
  after a leading surrogate, if there is one. -/
  | unit (lead : Option Nat) (seen : List Char)
  /-- A leading surrogate. -/
  | lead (unit : Nat)
  /-- A leading surrogate and a backslash. -/
  | leadBegun (unit : Nat)
deriving DecidableEq, Repr

/-- A string being read. Its characters stand latest first. -/
structure Quoted where
  written : List Char := []
  escape : Escape := .none
deriving DecidableEq, Repr

namespace Quoted

/-- The value of a digit of base sixteen, in either case. -/
def hexValue? (c : Char) : Option Nat :=
  if '0' ≤ c ∧ c ≤ '9' then some (c.toNat - '0'.toNat)
  else if 'a' ≤ c ∧ c ≤ 'f' then some (c.toNat - 'a'.toNat + 10)
  else if 'A' ≤ c ∧ c ≤ 'F' then some (c.toNat - 'A'.toNat + 10)
  else none

/-- How many bytes a text takes. -/
def byteCount : List Char → Nat
  | [] => 0
  | c :: rest => c.utf8Size + byteCount rest

/-- The unit that four digits name. -/
def unitOf? : List Char → Option Nat
  | [a, b, c, d] => do
    return ((← hexValue? a) * 16 + (← hexValue? b)) * 256
      + ((← hexValue? c) * 16 + (← hexValue? d))
  | _ => .none

/-- The unit is the first of a surrogate pair. -/
def isLead (unit : Nat) : Bool :=
  0xD800 ≤ unit && unit ≤ 0xDBFF

/-- The unit is the second of a surrogate pair. -/
def isTrail (unit : Nat) : Bool :=
  0xDC00 ≤ unit && unit ≤ 0xDFFF

/-- The character of a surrogate pair. -/
def pair (lead trail : Nat) : Char :=
  Char.ofNat (0x10000 + (lead - 0xD800) * 0x400 + (trail - 0xDC00))

/-- The string with one more character, and no escape begun. -/
def push (q : Quoted) (c : Char) : Quoted :=
  ⟨c :: q.written, .none⟩

/-- The string with one more unit, which may complete a pair or begin one. -/
def pushUnit (q : Quoted) (lead : Option Nat) (unit : Nat) : Except Fault Quoted :=
  match lead with
  | some first => if isTrail unit then .ok (q.push (pair first unit)) else .error .malformed
  | .none =>
    if isTrail unit then .error .malformed
    else if isLead unit then .ok { q with escape := .lead unit }
    else .ok (q.push (Char.ofNat unit))

/-- The character that an escape of one letter stands for. -/
def letter? (c : Char) : Option Char :=
  match c with
  | '"' => some '"'
  | '\\' => some '\\'
  | '/' => some '/'
  | 'b' => some '\x08'
  | 'f' => some '\x0c'
  | 'n' => some '\n'
  | 'r' => some '\r'
  | 't' => some '\t'
  | _ => .none

/-- The text read so far. -/
def text (q : Quoted) : String :=
  String.ofList q.written.reverse

/-- One more character: the longer string, or its text if this was the closing quote. -/
def step (q : Quoted) (c : Char) : Except Fault (Quoted ⊕ String) :=
  match q.escape with
  | .none =>
    if c = '"' then .ok (.inr q.text)
    else if c = '\\' then .ok (.inl { q with escape := .begun })
    else if c.toNat < 0x20 then .error .malformed
    else .ok (.inl (q.push c))
  | .begun =>
    if c = 'u' then .ok (.inl { q with escape := .unit .none [] })
    else
      match letter? c with
      | some meant => .ok (.inl (q.push meant))
      | .none => .error .malformed
  | .unit lead seen =>
    let digits := c :: seen
    if byteCount digits < 4 then
      .ok (.inl { q with escape := .unit lead digits })
    else
      match unitOf? digits.reverse with
      | some unit => (q.pushUnit lead unit).map .inl
      | .none => .error .malformed
  | .lead unit =>
    if c = '\\' then .ok (.inl { q with escape := .leadBegun unit }) else .error .malformed
  | .leadBegun unit =>
    if c = 'u' then .ok (.inl { q with escape := .unit (some unit) [] })
    else .error .malformed

end Quoted

end GuardedScript.Value
