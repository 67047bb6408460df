/-!
# Shortest decimals

A binary floating-point number stands for all the reals that round to it. Among the
decimals in that interval, the *shortest* one lies on the coarsest decimal grid, the
multiples of `10 ^ k` for the largest possible `k`; of two such decimals it is the one
nearer to the number, and of two equally near ones the even one.

All comparisons are between natural numbers: both sides are scaled by the same powers of
two and of ten, so nothing is rounded.
-/

namespace GuardedScript

/-- A decimal number, `digits * 10 ^ exponent`. -/
structure Decimal where
  digits : Nat
  exponent : Int
deriving DecidableEq, Repr

namespace Decimal

/-- A positive binary number, `significand * 2 ^ exponent`. It is `narrow` when the number
below it is only half as far away as the number above it. -/
structure Binary where
  significand : Nat
  exponent : Int
  narrow : Bool
deriving DecidableEq, Repr

/-- A floating-point number has fifty-two bits of fraction: this is the first number that does
not fit them. -/
def Binary.implicitBit : Nat :=
  0x10000000000000

/-- The magnitude of a finite floating-point number, read off its sixty-four bits without the
sign: the eleven leading bits are the exponent, the other fifty-two the fraction. -/
def Binary.ofBits (bits : Nat) : Binary :=
  let exponent : Nat := bits / implicitBit
  let fraction : Nat := bits % implicitBit
  if exponent = 0 then
    ⟨fraction, -1074, false⟩
  else
    ⟨implicitBit + fraction, exponent - 1075, fraction = 0 ∧ 1 < exponent⟩

/-! ### One grid -/

/-- A binary number measured on the grid of the multiples of `10 ^ k`. One step of the grid
is `step` units long, and the number and the ends of its interval are `value`, `low` and
`high` units. The ends belong to the interval when `closed`. -/
structure Measure where
  step : Nat
  value : Nat
  low : Nat
  high : Nat
  closed : Bool
deriving DecidableEq, Repr

/-- The measure of a number on the grid of the multiples of `10 ^ k`. The unit is so small that
a quarter of `2 ^ exponent` and `10 ^ k` are both whole numbers of units. -/
def Binary.measure (x : Binary) (k : Int) : Measure :=
  let quarter := x.exponent - 2
  let unit := Nat.pow 2 quarter.toNat * Nat.pow 10 (-k).toNat
  { step := Nat.pow 10 k.toNat * Nat.pow 2 (-quarter).toNat
    value := 4 * x.significand * unit
    low := (4 * x.significand - if x.narrow then 1 else 2) * unit
    high := (4 * x.significand + 2) * unit
    closed := x.significand % 2 = 0 }

/-- The `d`-th point of the grid lies in the interval. -/
def Measure.holds (m : Measure) (d : Nat) : Bool :=
  let point := d * m.step
  if m.closed then m.low ≤ point && point ≤ m.high else m.low < point && point < m.high

/-- The point of the grid in the interval that is nearest to the number, if there is one. A
point of the interval exists exactly when one of the number's two neighbours on the grid is
in it. -/
def Measure.nearest? (m : Measure) : Option Nat :=
  let below := m.value / m.step
  let above := below + 1
  match m.holds below, m.holds above with
  | false, false => none
  | true, false => some below
  | false, true => some above
  | true, true =>
    let down := m.value - below * m.step
    let up := above * m.step - m.value
    if down < up then some below
    else if up < down then some above
    else some (if below % 2 = 0 then below else above)

/-! ### From coarse grids to fine ones -/

/-- The first decimal found on `count` grids, the coarsest of which has exponent `k`. When
all fail, the number rounded down to the grid after them. -/
def Binary.search (x : Binary) (k : Int) : Nat → Decimal
  | 0 => ⟨(x.measure k).value / (x.measure k).step, k⟩
  | count + 1 =>
    match (x.measure k).nearest? with
    | some d => ⟨d, k⟩
    | none => x.search (k - 1) count

/-- An exponent whose power of ten is above the number, by less than a thousand times. There are
`30103 / 100000` decimal digits to a bit, very nearly. -/
def Binary.ceiling (x : Binary) : Int :=
  (x.significand.log2 + x.exponent) * 30103 / 100000 + 2

/-- The shortest decimal that reads back as the number. Seventeen digits are always enough,
so the search ends within twenty grids below the ceiling. -/
def Binary.shortest (x : Binary) : Decimal :=
  x.search x.ceiling 20

end Decimal

end GuardedScript
