import PageCheck.Decimal.Binary64

/-!
The fewest decimal digits that read back as a given number, and of those the digits nearest to it.
All comparisons are between naturals.
-/
namespace PageCheck.Decimal

structure Numeral where
  digits : Nat
  exponent : Int
  deriving DecidableEq, Repr, Inhabited

/-- The reals that round to a number of absolute value `significand * 2 ^ scale`, in units of
`2 ^ (scale - 2)`: from `low` to `high`, both ends included when `closed`. -/
structure Neighbourhood where
  low : Nat
  high : Nat
  unit : Int
  closed : Bool

def neighbourhood (x : Binary64) : Neighbourhood :=
  let m := x.significand
  let narrow := m = twoPow 52 ∧ Binary64.minScale < x.scale
  { low := 4 * m - (if narrow then 1 else 2), high := 4 * m + 2, unit := x.scale - 2,
    closed := m % 2 == 0 }

def compareScaled (a : Nat) (g : Int) (b : Nat) (q : Int) : Ordering :=
  compare (a * tenPow g.toNat * twoPow (-q).toNat) (b * twoPow q.toNat * tenPow (-g).toNat)

def Neighbourhood.contains (area : Neighbourhood) (n : Numeral) : Bool :=
  let atLow := compareScaled n.digits n.exponent area.low area.unit
  let atHigh := compareScaled n.digits n.exponent area.high area.unit
  (atLow == .gt || (atLow == .eq && area.closed)) &&
    (atHigh == .lt || (atHigh == .eq && area.closed))

def floorAt (x : Binary64) (g : Int) : Nat :=
  let (num, den) := x.quotient
  num * tenPow (-g).toNat / (den * tenPow g.toNat)

def nearer (x : Binary64) (a : Nat) (g : Int) : Numeral :=
  match compareScaled (2 * a + 1) g (2 * x.significand) x.scale with
  | .lt => ⟨a + 1, g⟩
  | .gt => ⟨a, g⟩
  | .eq => ⟨a + a % 2, g⟩

def onGrid? (x : Binary64) (g : Int) : Option Numeral :=
  let area := neighbourhood x
  let a := floorAt x g
  match area.contains ⟨a, g⟩, area.contains ⟨a + 1, g⟩ with
  | true, true => some (nearer x a g)
  | true, false => some ⟨a, g⟩
  | false, true => some ⟨a + 1, g⟩
  | false, false => none

def pointPosition (x : Binary64) : Int :=
  let (num, den) := x.quotient
  let guess : Int := ((num.log2 : Int) - (den.log2 : Int)) * 30103 / 100000 - 1
  let reaches (p : Int) : Bool := den * tenPow p.toNat ≤ num * tenPow (-p).toNat
  if reaches (guess + 2) then guess + 3
  else if reaches (guess + 1) then guess + 2
  else if reaches guess then guess + 1
  else guess

def search (x : Binary64) (top : Int) : Nat → Nat → Numeral
  | 0, n => ⟨floorAt x (top - n), top - n⟩
  | more + 1, n => (onGrid? x (top - n)).getD (search x top more (n + 1))

def shortest (x : Binary64) : Numeral :=
  if x.isZero then ⟨0, 0⟩ else search x (pointPosition x) 17 1

end PageCheck.Decimal
