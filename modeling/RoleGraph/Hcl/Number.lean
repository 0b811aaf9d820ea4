import RoleGraph.Decimal.Double

/-!
# Numbers of configuration files

A number has a sign, a size and a precision, which is the number of bits that its size may have.
Sums, differences and quotients take the higher precision of their operands and are rounded to it;
a product keeps every bit up to 512. What grows beyond the largest exponent is infinite, and what
falls below the smallest one is zero. Operations without a result, such as the difference of two
infinities, fail. A number is written positionally with the fewest digits that read back in its own
precision, and numbers that are written alike are equal.
-/

namespace RoleGraph

namespace Hcl

/-- The size of a number. -/
inductive Size where
  | finite (x : Binary)
  | infinite
  deriving DecidableEq, Repr

namespace Size

/-- The size zero. -/
def zero : Size := .finite ⟨0, 0⟩

/-- Whether a size is zero. -/
def isZero : Size → Bool
  | .finite x => x.mantissa == 0
  | .infinite => false

/-- A positive fraction is smaller than two to this power. -/
def highest : Int := 2147483647

/-- A positive fraction is at least half of two to this power. -/
def lowest : Int := -2147483648

/-- The size of `num / den · 2 ^ shift` rounded to some bits. -/
def round (bits num den : Nat) (shift : Int) : Size :=
  if num = 0 then zero
  else
    let x := Binary.ofRatio (.ofBits bits) num den
    let x : Binary := ⟨x.mantissa, x.exponent + shift⟩
    let top := x.leading + 1
    if highest < top then .infinite else if top < lowest then zero else .finite x

/-- The product of two sizes rounded to some bits; zero times an infinity has none. -/
def mul? (bits : Nat) : Size → Size → Option Size
  | .finite x, .finite y =>
    some (round bits (x.mantissa * y.mantissa) 1 (x.exponent + y.exponent))
  | x, y => if x.isZero || y.isZero then none else some .infinite

/-- The quotient of two sizes rounded to some bits. Dividing by zero gives an infinity, but for zero
by zero and for an infinity by an infinity there is no quotient. -/
def div? (bits : Nat) : Size → Size → Option Size
  | .infinite, .infinite => none
  | .infinite, .finite _ => some .infinite
  | .finite _, .infinite => some zero
  | .finite x, .finite y =>
    if y.mantissa = 0 then if x.mantissa = 0 then none else some .infinite
    else some (round bits x.mantissa y.mantissa (x.exponent - y.exponent))

/-- Multiply by a power whose exponent is given bit by bit: `power` holds for the lowest bit. -/
def raise : Nat → Nat → Size → Size → Option Size
  | 0, _, s, _ => some s
  | fuel + 1, n, s, power =>
    if n = 0 then some s
    else do
      let s ← if n % 2 = 1 then mul? 576 s power else some s
      raise fuel (n / 2) s (← mul? 640 power power)

/-- The powers of five are exact up to this exponent. -/
def exactPower : Nat := 27

/-- A power of five, with bits to spare: what exceeds the exact powers is multiplied up by
squaring. -/
def powerOfFive? (n : Nat) : Option Size :=
  if n ≤ exactPower then some (.finite ⟨Nat.pow 5 n, 0⟩)
  else raise n.log2.succ (n - exactPower) (.finite ⟨Nat.pow 5 exactPower, 0⟩) (.finite ⟨5, 0⟩)

/-- Compare two sizes. -/
def compare : Size → Size → Ordering
  | .infinite, .infinite => .eq
  | .infinite, .finite _ => .gt
  | .finite _, .infinite => .lt
  | .finite x, .finite y => x.compare y

end Size

/-- A number of a configuration file. -/
structure Number where
  /-- The precision. -/
  bits : Nat
  negative : Bool
  size : Size
  deriving DecidableEq, Repr

namespace Number

/-- The precision of numbers that are read. -/
def readBits : Nat := 512

/-- The precision of indices. -/
def indexBits : Nat := 64

/-- The number of an index. -/
def ofIndex (n : Nat) : Number := ⟨indexBits, false, Size.round indexBits n 1 0⟩

/-- The number with the other sign. -/
def neg (x : Number) : Number := { x with negative := !x.negative }

/-- The sum rounded to some bits; opposing infinities have none. -/
def addWithin? (bits : Nat) (x y : Number) : Option Number :=
  match x.size, y.size with
  | .infinite, .infinite =>
    if x.negative = y.negative then some ⟨bits, x.negative, .infinite⟩ else none
  | .infinite, .finite _ => some ⟨bits, x.negative, .infinite⟩
  | .finite _, .infinite => some ⟨bits, y.negative, .infinite⟩
  | .finite a, .finite b =>
    let least := min a.exponent b.exponent
    let signed (negative : Bool) (z : Binary) : Int :=
      let n : Int := z.mantissa * Nat.pow 2 (z.exponent - least).toNat
      if negative then -n else n
    let sum := signed x.negative a + signed y.negative b
    let isZero := a.mantissa = 0 && b.mantissa = 0
    let negative := if isZero then x.negative && y.negative else decide (sum < 0)
    some ⟨bits, negative, Size.round bits sum.natAbs 1 least⟩

/-- The precision that two numbers share. -/
def sharedBits (x y : Number) : Nat := max x.bits y.bits

/-- The sum. -/
def add? (x y : Number) : Option Number := addWithin? (sharedBits x y) x y

/-- The difference. -/
def sub? (x y : Number) : Option Number := add? x y.neg

/-- The number of bits that a size needs. -/
def bitsOf : Size → Nat
  | .infinite => 0
  | .finite x =>
    if x.mantissa = 0 then 0
    else
      let trailing := (List.range (x.mantissa.log2 + 1)).takeWhile fun i => !x.mantissa.testBit i
      x.mantissa.log2 + 1 - trailing.length

/-- The product, with all the bits that it needs. -/
def mul? (x y : Number) : Option Number :=
  (Size.mul? readBits x.size y.size).map fun size =>
    ⟨max (sharedBits x y) (bitsOf size), x.negative != y.negative, size⟩

/-- The quotient. -/
def div? (x y : Number) : Option Number :=
  (Size.div? (sharedBits x y) x.size y.size).map fun size =>
    ⟨sharedBits x y, x.negative != y.negative, size⟩

/-- The whole part of a binary fraction. -/
def whole (x : Binary) : Nat :=
  match x.exponent with
  | .ofNat k => x.mantissa * Nat.pow 2 k
  | .negSucc k => x.mantissa / Nat.pow 2 (k + 1)

/-- The rest of the division whose quotient is cut off toward zero. The quotient is rounded first,
and every step takes the precision of the number that is divided. A rest by zero is the number
itself, and infinities have none. -/
def mod? (x y : Number) : Option Number :=
  if y.size.isZero then some x
  else do
    let quotient ← div? x y
    match x.size, y.size, quotient.size with
    | .finite _, .finite _, .finite q =>
      let multiple ← Size.mul? x.bits (Size.round x.bits (whole q) 1 0) y.size
      let cut := decide (0 < whole q) && quotient.negative
      addWithin? x.bits x ⟨x.bits, !(cut != y.negative), multiple⟩
    | _, _, _ => none

/-- Compare two numbers by value; the two zeros are equal. -/
def compare (x y : Number) : Ordering :=
  if x.size.isZero && y.size.isZero then .eq
  else match x.negative, y.negative with
    | false, false => x.size.compare y.size
    | true, true => y.size.compare x.size
    | true, false => .lt
    | false, true => .gt

/-- The integer of 64 bits that a number is, if it is one. -/
def toInt? (x : Number) : Option Int :=
  match x.size with
  | .infinite => none
  | .finite a =>
    if a.mantissa = 0 then some 0
    else if 63 < a.leading ∨ a.leading < 0 then none
    else
      let (n, d) := a.ratio
      let n : Int := if x.negative then -(n : Int) else n
      if n % d = 0 && -9223372036854775808 ≤ n / d && n / d ≤ 9223372036854775807 then some (n / d)
      else none

/-- The mantissa shifted so that it has all bits of the precision. -/
def filled (bits : Nat) (x : Binary) : Binary :=
  let short := bits - (x.mantissa.log2 + 1)
  ⟨x.mantissa * Nat.pow 2 short, x.exponent - short⟩

/-- The fewest digits that read back in a precision. -/
def digits (bits : Nat) (x : Binary) : Decimal := Decimal.shortest (.ofBits bits) (filled bits x)

/-- The written number. -/
def text (x : Number) : Text :=
  match x.size with
  | .infinite => if x.negative then "-Inf" else "+Inf"
  | .finite a =>
    let body := Double.positional (digits x.bits a)
    if x.negative then Text.byte '-' :: body else body

/-- Whether two numbers are written alike; the two zeros are. -/
def same (x y : Number) : Bool :=
  match x.size, y.size with
  | .infinite, .infinite => x.negative == y.negative
  | .finite a, .finite b =>
    if a.mantissa = 0 || b.mantissa = 0 then a.mantissa == b.mantissa
    else x.negative == y.negative && digits x.bits a == digits y.bits b
  | _, _ => false

/-! ## Reading -/

/-- The value of a run of decimal digits. -/
def valueOf (digits : Text) : Nat := digits.foldl (fun n b => n * 10 + (b.toNat - 48)) 0

/-- Whether a byte is a decimal digit. -/
def isDigit (b : UInt8) : Bool := 0x30 ≤ b && b ≤ 0x39

/-- The sign in front of a text, and the rest. -/
def splitSign : Text → Bool × Text
  | 0x2D :: rest => (true, rest)
  | 0x2B :: rest => (false, rest)
  | t => (false, t)

/-- The value of an exponent, if it has digits and nothing else, and 64 bits hold it. -/
def exponent? (t : Text) : Option Int :=
  let (negative, digits) := splitSign t
  if digits.isEmpty || !digits.all isDigit then none
  else
    let n : Int := valueOf digits
    let e := if negative then -n else n
    if -9223372036854775808 ≤ e && e ≤ 9223372036854775807 then some e else none

/-- The size of `n · 2 ^ twos · 5 ^ fives`. The power of two alone must be in range. -/
def sizeOf? (n : Nat) (twos fives : Int) : Option Size :=
  let top := twos + n.log2 + 1
  if n = 0 then some .zero
  else if Size.highest < top ∨ top < Size.lowest then none
  else match fives with
    | .ofNat 0 => some (Size.round readBits n 1 twos)
    | .ofNat k => do Size.mul? readBits (.finite ⟨n, twos⟩) (← Size.powerOfFive? k)
    | .negSucc k => do Size.div? readBits (.finite ⟨n, twos⟩) (← Size.powerOfFive? (k + 1))

/-- The number that a text spells: digits with at most one point, and an exponent of ten after `e`
or of two after `p`. -/
def ofText? (t : Text) : Option Number :=
  let (negative, body) := splitSign t
  if body = Text.ofString "Inf" ∨ body = Text.ofString "inf" then
    some ⟨readBits, negative, .infinite⟩
  else
    let whole := body.takeWhile isDigit
    let (fraction, rest) := match body.dropWhile isDigit with
      | 0x2E :: rest => (rest.takeWhile isDigit, rest.dropWhile isDigit)
      | rest => ([], rest)
    if whole.isEmpty && fraction.isEmpty then none
    else
      let places : Int := fraction.length
      let exponents? : Option (Int × Int) := match rest with
        | [] => some (-places, -places)
        | mark :: rest =>
          if mark = 0x65 ∨ mark = 0x45 then (exponent? rest).map fun e => (e - places, e - places)
          else if mark = 0x70 ∨ mark = 0x50 then (exponent? rest).map fun e => (e - places, -places)
          else none
      exponents?.bind fun (twos, fives) =>
        (sizeOf? (valueOf (whole ++ fraction)) twos fives).map (⟨readBits, negative, ·⟩)

end Number

end Hcl

end RoleGraph
