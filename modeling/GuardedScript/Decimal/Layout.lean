import GuardedScript.Decimal.Shortest

/-!
# Writing decimals

A decimal is written *plainly*, with all its places, when the exponent of its leading digit
is in a given range, and otherwise *scaled*, as the leading digit, the other digits after a
point and a power of ten. A plain number always has a fraction, if only a zero.
-/

namespace GuardedScript.Decimal

/-- How decimals are written: the exponents of the leading digit that are written plainly,
both ends included. -/
structure Layout where
  lowest : Int
  highest : Int
deriving DecidableEq, Repr

/-- A row of zeros. -/
def zeros (count : Nat) : List Char :=
  List.replicate count '0'

/-- An integer in decimal, with a sign before a positive number too. -/
def signed (n : Int) : List Char :=
  (if n < 0 then '-' else '+') :: Nat.toDigits 10 n.natAbs

/-- The exponent of the leading digit. -/
def lead (d : Decimal) : Int :=
  d.exponent + (Nat.toDigits 10 d.digits).length - 1

/-- The decimal with all its places. -/
def plain (d : Decimal) : List Char :=
  let digits := Nat.toDigits 10 d.digits
  if 0 ≤ d.exponent then
    digits ++ zeros d.exponent.toNat ++ ['.', '0']
  else if 0 ≤ d.lead then
    digits.take (d.lead + 1).toNat ++ '.' :: digits.drop (d.lead + 1).toNat
  else
    ['0', '.'] ++ zeros (-d.lead - 1).toNat ++ digits

/-- The decimal as its leading digit, the others after a point, and a power of ten. -/
def scaled (d : Decimal) : List Char :=
  let mantissa :=
    match Nat.toDigits 10 d.digits with
    | first :: second :: rest => first :: '.' :: second :: rest
    | digits => digits
  mantissa ++ 'e' :: signed d.lead

/-- The decimal, plainly where the layout wants that. -/
def Layout.write (layout : Layout) (d : Decimal) : List Char :=
  if layout.lowest ≤ d.lead ∧ d.lead ≤ layout.highest then d.plain else d.scaled

/-- The bit of a floating-point number that holds its sign. -/
def signBit : Nat :=
  0x8000000000000000

/-- A finite floating-point number: its sign, then its shortest decimal. Zero is written
with one place on either side of the point, and keeps its sign. -/
def Layout.writeFloat (layout : Layout) (x : Float) : List Char :=
  let bits := x.toBits.toNat
  let sign := if signBit ≤ bits then ['-'] else []
  let magnitude := Binary.ofBits (bits % signBit)
  sign ++
    if magnitude.significand = 0 then ['0', '.', '0'] else layout.write magnitude.shortest

end GuardedScript.Decimal
