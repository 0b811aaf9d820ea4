/-!
# Binary fractions

A number `mantissa · 2 ^ exponent`, and correct rounding of a quotient of naturals to a mantissa
of a given width. A halfway case goes to the even mantissa.
-/

namespace RoleGraph

/-- The non-negative number `mantissa · 2 ^ exponent`. -/
structure Binary where
  mantissa : Nat
  exponent : Int
  deriving DecidableEq, Repr

/-- How many bits a mantissa may have, and the least exponent when there is one. -/
structure Precision where
  bits : Nat
  least : Option Int
  /-- The gap below a power of two is taken for half of the one above it. -/
  narrows : Bool

/-- Double precision: 53 bits, down to `2 ^ -1074`. -/
def Precision.double : Precision := ⟨53, some (-1074), true⟩

/-- A given number of bits without a least exponent. The gaps on both sides of a number are taken to
be equal. -/
def Precision.ofBits (bits : Nat) : Precision := ⟨bits, none, false⟩

/-- The quotient rounded to the nearest natural, a tie to the even one. -/
def roundDiv (num den : Nat) : Nat :=
  let q := num / den
  let twice := 2 * (num % den)
  if twice < den then q else if den < twice then q + 1 else q + q % 2

/-- Numerator and denominator of `num / (den · 2 ^ e)`. -/
def scaled (num den : Nat) (e : Int) : Nat × Nat :=
  match e with
  | .ofNat k => (num, den * Nat.pow 2 k)
  | .negSucc k => (num * Nat.pow 2 (k + 1), den)

/-- The nearest binary fraction of the given precision; the denominator is positive. -/
def Binary.ofRatio (p : Precision) (num den : Nat) : Binary :=
  if num = 0 then ⟨0, 0⟩
  else
    let guess : Int := (Nat.log2 num : Int) - (Nat.log2 den : Int) - ((p.bits : Int) - 1)
    let (n, d) := scaled num den guess
    let natural := if n < d * Nat.pow 2 (p.bits - 1) then guess - 1 else guess
    let e := match p.least with
      | some l => max l natural
      | none => natural
    let (n, d) := scaled num den e
    let m := roundDiv n d
    if m = Nat.pow 2 p.bits then ⟨Nat.pow 2 (p.bits - 1), e + 1⟩ else ⟨m, e⟩

/-- Numerator and denominator of a binary fraction. -/
def Binary.ratio (x : Binary) : Nat × Nat := scaled x.mantissa 1 (-x.exponent)

/-- The exponent of the leading bit of a positive fraction. -/
def Binary.leading (x : Binary) : Int := x.exponent + Nat.log2 x.mantissa

/-- Compare two binary fractions by value. The mantissas decide only when the leading bits stand at
the same place. -/
def Binary.compare (x y : Binary) : Ordering :=
  if x.mantissa = 0 ∨ y.mantissa = 0 then Ord.compare x.mantissa y.mantissa
  else if x.leading ≠ y.leading then Ord.compare x.leading y.leading
  else
    let least := min x.exponent y.exponent
    Ord.compare (x.mantissa * Nat.pow 2 (x.exponent - least).toNat)
      (y.mantissa * Nat.pow 2 (y.exponent - least).toNat)

end RoleGraph
