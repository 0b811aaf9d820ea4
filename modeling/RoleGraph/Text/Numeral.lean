import RoleGraph.Text.Basic
import RoleGraph.Word

/-!
# Integer numerals

Integers of 64 bits as they are written on a command line: an optional sign, then digits whose base
follows from the start of the text: `0x`, `0o` and `0b` in either case, any other leading zero for
octal, else decimal. An underscore may stand between digits and after the mark of a base.
-/

namespace RoleGraph

namespace Numeral

/-- Why a text is not a number. -/
inductive Failure where
  | malformed
  | outOfRange
  deriving DecidableEq, Repr

/-- The value of a digit or letter, up to thirty-five. -/
def digit? (b : UInt8) : Option Nat :=
  let n := b.toNat
  if 48 ≤ n && n ≤ 57 then some (n - 48)
  else if 97 ≤ n && n ≤ 122 then some (n - 87)
  else if 65 ≤ n && n ≤ 90 then some (n - 55)
  else none

/-- The base of a numeral without sign, and its digits. -/
def splitBase : Text → Nat × Text
  | 0x30 :: c :: d :: rest =>
    if c == 0x62 || c == 0x42 then (2, d :: rest)
    else if c == 0x6F || c == 0x4F then (8, d :: rest)
    else if c == 0x78 || c == 0x58 then (16, d :: rest)
    else (8, c :: d :: rest)
  | 0x30 :: rest => (8, rest)
  | t => (10, t)

/-- Read digits from the left, passing over underscores. The first fault decides: a byte that is no
digit, or a number that no longer fits 64 bits. -/
def digits (base : Nat) : Nat → Text → Except Failure Nat
  | n, [] => .ok n
  | n, b :: rest =>
    if b = 0x5F then digits base n rest
    else match digit? b with
      | none => .error .malformed
      | some d =>
        if base ≤ d then .error .malformed
        else if Word.unsignedBound ≤ n * base + d then .error .outOfRange
        else digits base (n * base + d) rest

/-- What precedes a byte of a numeral, as far as underscores care. -/
inductive Before where
  | digit
  | underscore
  | other
  deriving DecidableEq

/-- Whether every underscore stands between digits; `isHex` also counts letters as digits. -/
def spacedWell (isHex : Bool) : Before → Text → Bool
  | seen, [] => seen != .underscore
  | seen, b :: rest =>
    let isDigit := (48 ≤ b && b ≤ 57) ||
      (isHex && ((97 ≤ b && b ≤ 102) || (65 ≤ b && b ≤ 70)))
    if isDigit then spacedWell isHex .digit rest
    else if b = 0x5F then seen == .digit && spacedWell isHex .underscore rest
    else seen != .underscore && spacedWell isHex .other rest

/-- Whether the underscores of a numeral without sign are well placed; the mark of a base counts as
a digit. -/
def underscoresFit : Text → Bool
  | 0x30 :: c :: rest =>
    let lower := if 65 ≤ c && c ≤ 90 then c + 32 else c
    if lower == 0x78 then spacedWell true .digit rest
    else if lower == 0x62 || lower == 0x6F then spacedWell false .digit rest
    else spacedWell false .other (0x30 :: c :: rest)
  | t => spacedWell false .other t

/-- A number without sign. -/
def unsigned (t : Text) : Except Failure Nat :=
  if t.isEmpty then .error .malformed
  else
    let (base, ds) := splitBase t
    match digits base 0 ds with
    | .error e => .error e
    | .ok n => if t.contains 0x5F && !underscoresFit t then .error .malformed else .ok n

/-- A signed number of 64 bits. -/
def signed (t : Text) : Except Failure Int :=
  let (negative, body) := match t with
    | 0x2D :: rest => (true, rest)
    | 0x2B :: rest => (false, rest)
    | _ => (false, t)
  match unsigned body with
  | .error e => .error e
  | .ok n =>
    if negative then if (n : Int) ≤ Word.signedBound then .ok (-(n : Int)) else .error .outOfRange
    else if (n : Int) < Word.signedBound then .ok n else .error .outOfRange

end Numeral

end RoleGraph
