import RoleGraph.Decimal.Shortest
import RoleGraph.Text.Basic

/-!
# Double-precision numbers

Floating-point numbers as exact data: a sign with a binary fraction of 53 bits, the two infinities
and a value that is no number. A decimal is read by rounding it correctly, and a number is written
with the fewest digits that read back.
-/

namespace RoleGraph

/-- A double-precision number. -/
inductive Double where
  | finite (negative : Bool) (magnitude : Binary)
  | infinite (negative : Bool)
  | nan
  deriving DecidableEq, Repr

namespace Double

/-- Whether a magnitude is too large for a finite number. -/
def overflows (x : Binary) : Bool := 0 < x.mantissa && 971 < x.exponent

/-- The number `digits · 10 ^ exponent`, unless it is too large. -/
def ofDecimal? (negative : Bool) (digits : Nat) (exponent : Int) : Option Double :=
  let size := (Nat.toDigits 10 digits).length
  if digits = 0 then some (.finite negative ⟨0, 0⟩)
  else if exponent + size < -330 then some (.finite negative ⟨0, 0⟩)
  else if 310 < exponent + size then none
  else
    let x := match exponent with
      | .ofNat k => Binary.ofRatio .double (digits * Nat.pow 10 k) 1
      | .negSucc k => Binary.ofRatio .double digits (Nat.pow 10 (k + 1))
    if overflows x then none else some (.finite negative x)

/-- The double nearest to an integer of at most 64 bits. -/
def ofInt (n : Int) : Double := .finite (n < 0) (Binary.ofRatio .double n.natAbs 1)

/-- Whether one number is below another; nothing is below or above a value that is no number. -/
def lt : Double → Double → Bool
  | .nan, _ | _, .nan => false
  | .infinite n, .infinite m => n && !m
  | .infinite n, .finite _ _ => n
  | .finite _ _, .infinite m => !m
  | .finite n x, .finite m y =>
    match n, m with
    | false, false => x.compare y == .lt
    | true, true => y.compare x == .lt
    | true, false => !(x.mantissa == 0 && y.mantissa == 0)
    | false, true => false

/-- Equality of values: the two zeros are equal. -/
def same (x y : Double) : Bool := x != .nan && y != .nan && !lt x y && !lt y x

/-- How a number is laid out: below `low` and from `high` on the decimal exponent is written. -/
structure Layout where
  low : Int
  high : Int
  exponentWidth : Nat
  positiveInfinity : Text
  negativeInfinity : Text
  notANumber : Text

/-- Digits as a text. -/
def digitText (ds : List Nat) : Text := ds.map fun d => (48 + d).toUInt8

/-- Positional notation of a decimal: zeros fill the gap between the digits and the point. -/
def positional (d : Decimal) : Text :=
  match d.point with
  | .ofNat k =>
    if d.digits.isEmpty then "0"
    else if d.digits.length ≤ k then
      digitText d.digits ++ List.replicate (k - d.digits.length) (Text.byte '0')
    else
      let whole := digitText (d.digits.take k)
      (if whole.isEmpty then Text.ofString "0" else whole) ++
        Text.byte '.' :: digitText (d.digits.drop k)
  | .negSucc k =>
    "0." ++ List.replicate (k + 1) (Text.byte '0') ++ digitText d.digits

/-- Scientific notation of a decimal with at least `width` exponent digits. -/
def scientific (width : Nat) (d : Decimal) : Text :=
  let e := d.point - 1
  let tail := digitText (d.digits.drop 1)
  let mantissa := digitText (d.digits.take 1) ++ (if tail.isEmpty then [] else Text.byte '.' :: tail)
  let digits := Text.ofNat e.natAbs
  mantissa ++ Text.byte 'e' :: (if e < 0 then Text.byte '-' else Text.byte '+') ::
    (List.replicate (width - digits.length) (Text.byte '0') ++ digits)

/-- A number in a given layout. -/
def format (layout : Layout) : Double → Text
  | .nan => layout.notANumber
  | .infinite negative => if negative then layout.negativeInfinity else layout.positiveInfinity
  | .finite negative x =>
    let d := Decimal.shortest .double x
    let e := d.point - 1
    let body :=
      if d.digits.isEmpty then Text.ofString "0"
      else if e < layout.low || layout.high ≤ e then scientific layout.exponentWidth d
      else positional d
    if negative then Text.byte '-' :: body else body

end Double

end RoleGraph
