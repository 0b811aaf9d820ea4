import RoleGraph.Decimal.Binary

/-!
# Shortest decimals

The fewest decimal digits that read back as a given binary fraction. The numbers that round to a
fraction form an interval, with its ends included when the mantissa is even. For one digit, two
digits and so on, the two neighbours of the value on that decimal grid are tested; the first grid
with a hit wins, and of two hits the nearer one.
-/

namespace RoleGraph

/-- The number `0.d₁d₂… · 10 ^ point`, with its digits from the left. -/
structure Decimal where
  digits : List Nat
  point : Int
  deriving DecidableEq, Repr

namespace Decimal

/-- The decimal digits of a natural number, from the left. -/
def digitsOf (n : Nat) : List Nat := (Nat.toDigits 10 n).map fun c => c.toNat - 48

/-- The digits without trailing zeros. -/
def trimZeros (ds : List Nat) : List Nat := (ds.reverse.dropWhile (· == 0)).reverse

/-- The decimal `n · 10 ^ scale` without trailing zeros. -/
def ofScaled (n : Nat) (scale : Int) : Decimal :=
  let ds := digitsOf n
  ⟨trimZeros ds, ds.length + scale⟩

/-- The interval of numbers that round to a fraction, over a common denominator. -/
structure Interval where
  low : Nat
  mid : Nat
  high : Nat
  den : Nat
  closed : Bool

/-- The interval around a positive fraction. Just above a power of two the gap below is half, if the
precision says so. -/
def interval (p : Precision) (x : Binary) : Interval :=
  let narrow := p.narrows && x.mantissa = Nat.pow 2 (p.bits - 1) && p.least != some x.exponent
  let (unit, den) := scaled 1 4 (-x.exponent)
  let mid := 4 * x.mantissa
  { low := (mid - if narrow then 1 else 2) * unit
    mid := mid * unit
    high := (mid + 2) * unit
    den := den
    closed := x.mantissa % 2 = 0 }

/-- Whether `n · 10 ^ scale` lies in the interval. -/
def Interval.contains (i : Interval) (n : Nat) (scale : Int) : Bool :=
  let (value, low, high) := match scale with
    | .ofNat k => (n * Nat.pow 10 k * i.den, i.low, i.high)
    | .negSucc k => (n * i.den, i.low * Nat.pow 10 (k + 1), i.high * Nat.pow 10 (k + 1))
  if i.closed then low ≤ value && value ≤ high else low < value && value < high

/-- The largest grid point `n · 10 ^ scale` at or below the middle, and twice the rest over `den`. -/
def Interval.below (i : Interval) (scale : Int) : Nat × Nat × Nat :=
  let (num, den) := match scale with
    | .ofNat k => (i.mid, i.den * Nat.pow 10 k)
    | .negSucc k => (i.mid * Nat.pow 10 (k + 1), i.den)
  (num / den, 2 * (num % den), den)

/-- Try grids from coarse to fine until one has a point in the interval. -/
def search (i : Interval) : Nat → Int → Decimal
  | 0, scale => ofScaled (i.below scale).1 scale
  | fuel + 1, scale =>
    let (n, twice, den) := i.below scale
    let down := n != 0 && i.contains n scale
    let up := i.contains (n + 1) scale
    if down && up then
      let nearer := if twice < den then n else if den < twice then n + 1 else n + n % 2
      ofScaled nearer scale
    else if down then ofScaled n scale
    else if up then ofScaled (n + 1) scale
    else search i fuel (scale - 1)

/-- The decimal exponent of the leading digit of a positive quotient, or one more. -/
def leadingScale (num den : Nat) : Int :=
  if den ≤ num then (Nat.toDigits 10 (num / den)).length
  else 1 - ((Nat.toDigits 10 (den / num)).length : Int)

/-- The shortest decimal that reads back as the fraction; zero has no digits. -/
def shortest (p : Precision) (x : Binary) : Decimal :=
  if x.mantissa = 0 then ⟨[], 0⟩
  else
    let i := interval p x
    search i (p.bits / 3 + 4) (leadingScale i.mid i.den)

end Decimal

end RoleGraph
