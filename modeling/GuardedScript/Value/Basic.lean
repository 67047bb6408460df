import GuardedScript.Dict

/-!
# Values

The components of an instruction, the variables of a script and the results of commands are
all *values*: the data of JSON. A number is either an integer, which takes sixty-four bits
with or without a sign, or a floating-point number, and the two kinds never mix: `1` and
`1.0` are different values.
-/

namespace GuardedScript

/-- The least integer of sixty-four bits with a sign. -/
def Integer.least : Int :=
  -0x8000000000000000

/-- The greatest integer of sixty-four bits without a sign. -/
def Integer.greatest : Int :=
  0xFFFFFFFFFFFFFFFF

/-- An integer that fits sixty-four bits, signed or unsigned. -/
structure Integer where
  val : Int
  lower : Integer.least ≤ val := by decide
  upper : val ≤ Integer.greatest := by decide
deriving DecidableEq, Repr

/-- An integer, if it fits. -/
def Integer.ofInt? (n : Int) : Option Integer :=
  if h : Integer.least ≤ n ∧ n ≤ Integer.greatest then some ⟨n, h.1, h.2⟩ else none

/-- A number: an integer or a floating-point number. -/
inductive Number
  | int (n : Integer)
  | float (x : Float)
deriving DecidableEq

/-- A JSON value. The members of an object are a dictionary. -/
inductive Value
  | null
  | bool (b : Bool)
  | num (n : Number)
  | str (s : String)
  | arr (items : List Value)
  | obj (members : List (String × Value))

namespace Number

/-- Numbers of different kinds differ; floating-point numbers compare as such, so that the
two zeros are the same. -/
def same : Number → Number → Bool
  | int m, int n => m == n
  | float x, float y => x == y
  | _, _ => false

/-- A number counts as true unless it is zero or not a number. -/
def truthy : Number → Bool
  | int n => n.val ≠ 0
  | float x => x != 0.0 && !x.isNaN

end Number

namespace Value

instance : Inhabited Value :=
  ⟨null⟩

/-- A value counts as true unless it is `null`, `false`, zero or the empty string. Arrays and
objects count as true even when they are empty. -/
def truthy : Value → Bool
  | null => false
  | bool b => b
  | num n => n.truthy
  | str s => s ≠ ""
  | arr _ => true
  | obj _ => true

mutual

/-- Equality of values: containers are compared part by part. -/
def same : Value → Value → Bool
  | null, null => true
  | bool a, bool b => a == b
  | num a, num b => a.same b
  | str a, str b => a == b
  | arr as, arr bs => sameItems as bs
  | obj as, obj bs => sameMembers as bs
  | _, _ => false

/-- Equality of the items of arrays. -/
def sameItems : List Value → List Value → Bool
  | [], [] => true
  | a :: as, b :: bs => same a b && sameItems as bs
  | _, _ => false

/-- Equality of the members of objects. -/
def sameMembers : List (String × Value) → List (String × Value) → Bool
  | [], [] => true
  | (k, a) :: as, (l, b) :: bs => k == l && same a b && sameMembers as bs
  | _, _ => false

end

mutual

/-- How many arrays and objects are open at the deepest point of a value. -/
def depth : Value → Nat
  | arr items => itemsDepth items + 1
  | obj members => membersDepth members + 1
  | _ => 0

/-- The depth of the deepest item. -/
def itemsDepth : List Value → Nat
  | [] => 0
  | v :: rest => max (depth v) (itemsDepth rest)

/-- The depth of the deepest member. -/
def membersDepth : List (String × Value) → Nat
  | [] => 0
  | (_, v) :: rest => max (depth v) (membersDepth rest)

end

/-- The deepest item is no deeper than a bound on all of them. -/
theorem itemsDepth_le {items : List Value} {bound : Nat} (h : ∀ v ∈ items, v.depth ≤ bound) :
  itemsDepth items ≤ bound
  := by
  induction items with
  | nil => apply Nat.zero_le
  | cons v rest ih =>
    obtain ⟨hv, hrest⟩ := List.forall_mem_cons.mp h
    rw [itemsDepth]
    apply Nat.max_le.mpr ⟨hv, ih hrest⟩

/-- The kind of a value, in words. -/
def kind : Value → String
  | null => "null"
  | bool _ => "a boolean"
  | num _ => "a number"
  | str _ => "a string"
  | arr _ => "an array"
  | obj _ => "an object"

end Value

end GuardedScript
