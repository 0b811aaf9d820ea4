import RoleGraph.Decimal.Double
import RoleGraph.Text.Numeral
import RoleGraph.Word
import RoleGraph.Yaml.Timestamp

/-!
# Scalars and their types

What the text of a plain scalar stands for. Words stand for null, truth values and special
numbers; a text that starts with a digit or a sign may be a time, an integer in one of four bases
or a decimal number; everything else is a string. A tag forces a type, and a text that does not
fit it is an error.
-/

namespace RoleGraph.Yaml

namespace Tag

def str : Text := "!!str"
def bool : Text := "!!bool"
def int : Text := "!!int"
def float : Text := "!!float"
def null : Text := "!!null"
def time : Text := "!!timestamp"
def binary : Text := "!!binary"
def merge : Text := "!!merge"
def seq : Text := "!!seq"
def map : Text := "!!map"

/-- The common part of the format's own tags. -/
def common : Text := "tag:yaml.org,2002:"

/-- The short form of a tag: the format's own tags start with two exclamation marks. -/
def short (t : Text) : Text :=
  if common.isPrefixOf t then "!!" ++ t.drop common.length else t

end Tag

/-- A value without parts. -/
inductive Scalar where
  | null
  | bool (b : Bool)
  | int (n : Int)
  | float (x : Double)
  | time (t : Timestamp)
  | str (t : Text)
  deriving DecidableEq, Repr

namespace Scalar

/-- The tag that belongs to a scalar. -/
def tag : Scalar → Text
  | .null => Tag.null
  | .bool _ => Tag.bool
  | .int _ => Tag.int
  | .float _ => Tag.float
  | .time _ => Tag.time
  | .str _ => Tag.str

/-- The scalar that a reserved word stands for. -/
def ofWord? (t : Text) : Option Scalar :=
  let is (names : List String) : Bool := names.any fun n => t == Text.ofString n
  if is ["", "~", "null", "Null", "NULL"] then some .null
  else if is ["true", "True", "TRUE"] then some (.bool true)
  else if is ["false", "False", "FALSE"] then some (.bool false)
  else if is [".nan", ".NaN", ".NAN"] then some (.float .nan)
  else if is [".inf", ".Inf", ".INF", "+.inf", "+.Inf", "+.INF"] then some (.float (.infinite false))
  else if is ["-.inf", "-.Inf", "-.INF"] then some (.float (.infinite true))
  else none

/-- The value of a digit in any base up to sixteen. -/
def digitValue? (b : UInt8) : Option Nat :=
  let n := b.toNat
  if 48 ≤ n && n ≤ 57 then some (n - 48)
  else if 97 ≤ n && n ≤ 102 then some (n - 87)
  else if 65 ≤ n && n ≤ 70 then some (n - 55)
  else none

/-- The number that digits of a base stand for. -/
def digitsIn (base : Nat) (t : Text) : Option Nat :=
  t.foldl (fun acc b => acc.bind fun n =>
    (digitValue? b).bind fun d => if d < base then some (n * base + d) else none) (some 0)

/-- A number without a sign. The base follows from the start of the text: `0x`, `0o` and `0b` in
either case, any other leading zero for octal, else decimal. -/
def unsigned? (t : Text) : Option Nat :=
  match t with
  | [] => none
  | 0x30 :: c :: d :: rest =>
    if c == 0x62 || c == 0x42 then digitsIn 2 (d :: rest)
    else if c == 0x6F || c == 0x4F then digitsIn 8 (d :: rest)
    else if c == 0x78 || c == 0x58 then digitsIn 16 (d :: rest)
    else digitsIn 8 (c :: d :: rest)
  | 0x30 :: rest => digitsIn 8 rest
  | _ => digitsIn 10 t

/-- The sign of a number and what follows it. -/
def splitSign : Text → Bool × Text
  | 0x2D :: rest => (true, rest)
  | 0x2B :: rest => (false, rest)
  | t => (false, t)

/-- Apply a sign, and keep the result when it fits 64 bits as a signed number. -/
def signed64? (negative : Bool) (n : Nat) : Option Int :=
  if negative then if (n : Int) ≤ Word.signedBound then some (-(n : Int)) else none
  else if (n : Int) < Word.signedBound then some n else none

/-- A signed number of 64 bits whose digits have a fixed base. -/
def signedIn? (base : Nat) (t : Text) : Option Int :=
  let (negative, body) := splitSign t
  if body.isEmpty then none else (digitsIn base body).bind (signed64? negative)

/-- An integer: signed, else unsigned and without a sign, of 64 bits. -/
def integer? (t : Text) : Option Int :=
  let (negative, body) := splitSign t
  match (unsigned? body).bind (signed64? negative) with
  | some n => some n
  | none => (unsigned? t).bind fun n => if n < Word.unsignedBound then some (n : Int) else none

/-- A number whose sign stands after the base mark. -/
def markedInteger? (t : Text) : Option Int :=
  match t with
  | 0x30 :: 0x62 :: rest => signedIn? 2 rest
  | 0x2D :: 0x30 :: 0x62 :: rest => signedIn? 2 (0x2D :: rest)
  | 0x30 :: 0x6F :: rest => signedIn? 8 rest
  | 0x2D :: 0x30 :: 0x6F :: rest => signedIn? 8 (0x2D :: rest)
  | _ => none

/-- An ASCII digit. -/
def isDigitByte (b : UInt8) : Bool := 48 ≤ b && b ≤ 57

/-- The exponent of a decimal number; an empty text is exponent zero. -/
def exponent? : Text → Option Int
  | [] => some 0
  | e :: rest =>
    if e == 0x65 || e == 0x45 then
      let (negative, ds) := splitSign rest
      if ds.isEmpty || !ds.all isDigitByte then none
      else (digitsIn 10 ds).map fun n => if negative then -(n : Int) else n
    else none

/-- A decimal number: digits with at most one point and an optional exponent. -/
def decimal? (t : Text) : Option Double :=
  let (negative, body) := splitSign t
  let whole := body.takeWhile isDigitByte
  let rest := body.drop whole.length
  let (fraction, tail, point) := match rest with
    | 0x2E :: more =>
      let f := more.takeWhile isDigitByte
      (f, more.drop f.length, true)
    | _ => ([], rest, false)
  if whole.isEmpty && (fraction.isEmpty || !point) then none
  else do
    let e ← exponent? tail
    let n ← digitsIn 10 (whole ++ fraction)
    Double.ofDecimal? negative n (e - fraction.length)

/-- A decimal number that starts with a point; underscores may stand between its digits. -/
def pointed? (t : Text) : Option Double :=
  if t.contains 0x5F && !Numeral.underscoresFit t then none
  else decimal? (t.filter (· != 0x5F))

/-- A number or a time, for a text that starts with a digit or a sign. -/
def ofNumeric (allowTime : Bool) (t : Text) : Scalar :=
  match if allowTime then Timestamp.parse? t else none with
  | some moment => .time moment
  | none =>
    let plain := t.filter (· != 0x5F)
    match integer? plain with
    | some n => .int n
    | none =>
      match decimal? plain with
      | some x => .float x
      | none =>
        match markedInteger? plain with
        | some n => .int n
        | none => .str t

/-- What a text stands for; times count only when they are allowed. -/
def read (allowTime : Bool) (t : Text) : Scalar :=
  match t with
  | [] => .null
  | b :: _ =>
    if isDigitByte b || b == 0x2B || b == 0x2D then
      (ofWord? t).getD (ofNumeric allowTime t)
    else if b == 0x2E then
      (ofWord? t).getD (((pointed? t).map Scalar.float).getD (.str t))
    else (ofWord? t).getD (.str t)

/-- What a plain scalar without a tag stands for. -/
def ofPlain (t : Text) : Scalar := read true t

/-- The value of a scalar with a given short tag. Strings and unknown tags keep the text; a typed
text must read as that type, except that an integer is also a float. -/
def ofTagged? (tag t : Text) : Option Scalar :=
  if tag == Tag.bool || tag == Tag.int || tag == Tag.float || tag == Tag.null || tag == Tag.time then
    let s := read (tag == Tag.time) t
    if s.tag == tag then some s
    else match s with
      | .int n => if tag == Tag.float && n < Word.signedBound then some (.float (Double.ofInt n)) else none
      | _ => none
  else some (.str t)

end Scalar

end RoleGraph.Yaml
