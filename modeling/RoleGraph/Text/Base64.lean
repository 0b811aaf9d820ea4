import RoleGraph.Text.Basic

/-!
# Base 64

Bytes as printable ASCII: three bytes become four letters of a 64-letter alphabet, and `=` fills
up the last group. Decoding ignores line breaks, as texts folded over several lines carry them.
-/

namespace RoleGraph

namespace Base64

/-- The letter for a number below 64. -/
def letter (n : Nat) : UInt8 :=
  if n < 26 then (65 + n).toUInt8
  else if n < 52 then (71 + n).toUInt8
  else if n < 62 then (n - 4).toUInt8
  else if n = 62 then Text.byte '+' else Text.byte '/'

/-- The number a letter stands for. -/
def value? (b : UInt8) : Option Nat :=
  let n := b.toNat
  if 65 ≤ n && n ≤ 90 then some (n - 65)
  else if 97 ≤ n && n ≤ 122 then some (n - 71)
  else if 48 ≤ n && n ≤ 57 then some (n + 4)
  else if n = 43 then some 62
  else if n = 47 then some 63
  else none

/-- Padding. -/
def pad : UInt8 := 0x3D

/-- The letters for a byte sequence. -/
def encode : List UInt8 → Text
  | [] => []
  | [a] => [letter (a.toNat / 4), letter (a.toNat % 4 * 16), pad, pad]
  | [a, b] =>
    [letter (a.toNat / 4), letter (a.toNat % 4 * 16 + b.toNat / 16), letter (b.toNat % 16 * 4), pad]
  | a :: b :: c :: rest =>
    letter (a.toNat / 4) :: letter (a.toNat % 4 * 16 + b.toNat / 16) ::
      letter (b.toNat % 16 * 4 + c.toNat / 64) :: letter (c.toNat % 64) :: encode rest

/-- Decode whole groups; padding is allowed in the last one only. -/
def decodeGroups? : Text → Option (List UInt8)
  | [] => some []
  | a :: b :: c :: d :: rest => do
    let x ← value? a
    let y ← value? b
    let first := (x * 4 + y / 16).toUInt8
    if c = pad then
      if d = pad && rest.isEmpty then some [first] else none
    else
      let z ← value? c
      let second := (y % 16 * 16 + z / 4).toUInt8
      if d = pad then
        if rest.isEmpty then some [first, second] else none
      else
        let w ← value? d
        let more ← decodeGroups? rest
        some (first :: second :: (z % 4 * 64 + w).toUInt8 :: more)
  | _ => none

/-- The bytes that letters stand for, line breaks apart. -/
def decode? (t : Text) : Option (List UInt8) :=
  decodeGroups? (t.filter fun b => b != 0x0A && b != 0x0D)

end Base64

end RoleGraph
