import GuardedScript.Value.Basic
import GuardedScript.Value.Fault

/-!
# Numerals

A numeral is a sign, whole digits, a fraction and an exponent, the last two of which may be
missing. It is read character by character. A numeral with neither fraction nor exponent is
an integer if it fits sixty-four bits, except that the zero with a sign is a floating-point
number; all other numerals are floating-point numbers.

The value of a floating-point numeral is *one* rounded operation away from its digits: the
digits that fit sixty-four bits are taken as one whole number, which is multiplied or divided
by a power of ten. It is therefore not always the nearest number to the numeral.
-/

namespace GuardedScript.Value

/-- What has been read of a numeral so far. -/
inductive Stage
  /-- The sign alone. -/
  | sign
  /-- A zero, which no further whole digit may follow. -/
  | zero
  /-- Whole digits. -/
  | whole
  /-- The point alone. -/
  | point
  /-- Digits of the fraction. -/
  | fraction
  /-- The mark of the exponent alone. -/
  | mark
  /-- The mark of the exponent and a sign. -/
  | markSign
  /-- Digits of the exponent. -/
  | exponent
deriving DecidableEq, Repr

/-- A numeral being read. The digits stand latest first. -/
structure Numeral where
  stage : Stage
  negative : Bool := false
  whole : List Char := []
  fraction : List Char := []
  /-- The exponent has a minus sign. -/
  shrinking : Bool := false
  exponent : List Char := []
deriving DecidableEq, Repr

namespace Numeral

/-! ### Reading -/

/-- The numeral that a character begins. -/
def start? (c : Char) : Option Numeral :=
  if c = '-' then some { stage := .sign, negative := true }
  else if c = '0' then some { stage := .zero, whole := [c] }
  else if c.isDigit then some { stage := .whole, whole := [c] }
  else none

/-- After the whole digits a fraction or an exponent may begin; any other character does not
belong to the numeral. -/
def afterWhole (n : Numeral) (c : Char) : Option Numeral :=
  if c = '.' then some { n with stage := .point }
  else if c = 'e' ∨ c = 'E' then some { n with stage := .mark }
  else none

/-- One more character: the longer numeral, or nothing if the character does not belong to
it. A numeral cannot end at every stage. -/
def step (n : Numeral) (c : Char) : Except Fault (Option Numeral) :=
  match n.stage with
  | .sign =>
    if c = '0' then .ok (some { n with stage := .zero, whole := [c] })
    else if c.isDigit then .ok (some { n with stage := .whole, whole := [c] })
    else .error .malformed
  | .zero =>
    if c.isDigit then .error .malformed else .ok (n.afterWhole c)
  | .whole =>
    if c.isDigit then .ok (some { n with whole := c :: n.whole }) else .ok (n.afterWhole c)
  | .point =>
    if c.isDigit then .ok (some { n with stage := .fraction, fraction := [c] })
    else .error .malformed
  | .fraction =>
    if c.isDigit then .ok (some { n with fraction := c :: n.fraction })
    else if c = 'e' ∨ c = 'E' then .ok (some { n with stage := .mark })
    else .ok none
  | .mark =>
    if c = '+' then .ok (some { n with stage := .markSign })
    else if c = '-' then .ok (some { n with stage := .markSign, shrinking := true })
    else if c.isDigit then .ok (some { n with stage := .exponent, exponent := [c] })
    else .error .malformed
  | .markSign =>
    if c.isDigit then .ok (some { n with stage := .exponent, exponent := [c] })
    else .error .malformed
  | .exponent =>
    if c.isDigit then .ok (some { n with exponent := c :: n.exponent }) else .ok none

/-- The numeral may end where it does. -/
def complete (n : Numeral) : Bool :=
  match n.stage with
  | .zero | .whole | .fraction | .exponent => true
  | .sign | .point | .mark | .markSign => false

/-! ### Value -/

/-- Whole numbers below this bound fit sixty-four bits. -/
def bound : Nat :=
  0x10000000000000000

/-- The largest power of ten that is a finite floating-point number. -/
def topPower : Nat :=
  308

/-- The floating-point number nearest to a power of ten. -/
def powerOfTen (k : Nat) : Float :=
  Float.ofScientific 1 false k

/-- Digits appended to a whole number as long as it stays below the bound, and how many
digits are left when the first does not fit. -/
def fill (n : Nat) : List Char → Nat × Nat
  | [] => (n, 0)
  | c :: rest =>
    let longer := Nat.ofDigitChars 10 [c] n
    if longer < bound then fill longer rest else (n, rest.length + 1)

/-- A number divided by a power of ten, in steps of at most the top power. -/
def divide (x : Float) (k : Nat) : Float :=
  if k ≤ topPower then x / powerOfTen k
  else if x == 0.0 then x
  else divide (x / powerOfTen topPower) (k - topPower)
termination_by k
decreasing_by
  rw [topPower] at *
  omega

/-- A whole number times a power of ten. A number that is too large is malformed. -/
def scale (significand : Nat) (exponent : Int) : Except Fault Float :=
  let x := Float.ofNat significand
  match exponent with
  | .ofNat k =>
    if k ≤ topPower then
      let y := x * powerOfTen k
      if y.isInf then .error .malformed else .ok y
    else if significand = 0 then .ok x
    else .error .malformed
  | .negSucc k => .ok (divide x (k + 1))

/-- The exponent as written. -/
def writtenExponent (n : Numeral) : Int :=
  let k : Int := Nat.ofDigitChars 10 n.exponent.reverse 0
  if n.shrinking then -k else k

/-- The numeral as a floating-point number. Whole digits that do not fit raise the exponent,
digits of the fraction that do fit lower it, and those that do not fit are dropped. -/
def toFloat (n : Numeral) : Except Fault Float := do
  let (whole, dropped) := fill 0 n.whole.reverse
  let (significand, left) := fill whole n.fraction.reverse
  let places := n.fraction.length - left
  let magnitude ← scale significand (dropped - places + n.writtenExponent)
  return if n.negative then -magnitude else magnitude

/-- The numeral as an integer, if it is one. -/
def toInteger? (n : Numeral) : Option Integer :=
  let magnitude := Nat.ofDigitChars 10 n.whole.reverse 0
  match n.stage with
  | .zero | .whole =>
    if n.negative then
      if magnitude = 0 then none else Integer.ofInt? (-magnitude)
    else Integer.ofInt? magnitude
  | _ => none

/-- The number that a complete numeral stands for. -/
def toNumber (n : Numeral) : Except Fault Number :=
  if n.complete then
    match n.toInteger? with
    | some i => .ok (.int i)
    | none => n.toFloat.map .float
  else .error .incomplete

end Numeral

end GuardedScript.Value
