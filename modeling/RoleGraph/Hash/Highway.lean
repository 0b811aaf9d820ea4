import RoleGraph.Text.Basic

/-!
# A keyed 64-bit hash

HighwayHash over 32-byte packets: four 64-bit lanes in each of two accumulators and two
multiplier registers. Whole packets are absorbed in order, the remaining bytes are laid out in a
last packet together with their number, and four permuted rounds finish the state.
-/

namespace RoleGraph

namespace Highway

/-- Four 64-bit lanes. -/
structure Lanes where
  a : UInt64
  b : UInt64
  c : UInt64
  d : UInt64
  deriving DecidableEq

/-- Apply a function to every lane. -/
def Lanes.map (f : UInt64 → UInt64) (x : Lanes) : Lanes := ⟨f x.a, f x.b, f x.c, f x.d⟩

/-- Combine two groups of lanes pointwise. -/
def Lanes.zip (f : UInt64 → UInt64 → UInt64) (x y : Lanes) : Lanes :=
  ⟨f x.a y.a, f x.b y.b, f x.c y.c, f x.d y.d⟩

/-- The running state: two accumulators and two multiplier registers. -/
structure State where
  v0 : Lanes
  v1 : Lanes
  mul0 : Lanes
  mul1 : Lanes

/-- Exchange the two halves of a word. -/
def swapHalves (x : UInt64) : UInt64 := (x >>> 32) ||| (x <<< 32)

/-- The state before any packet. -/
def start (key : Lanes) : State :=
  let mul0 : Lanes :=
    ⟨0xdbe6d5d5fe4cce2f, 0xa4093822299f31d0, 0x13198a2e03707344, 0x243f6a8885a308d3⟩
  let mul1 : Lanes :=
    ⟨0x3bd39e10cb0ef593, 0xc0acf169b5f18a8c, 0xbe5466cf34e90c6c, 0x452821e638d01377⟩
  { v0 := mul0.zip (· ^^^ ·) key
    v1 := mul1.zip (· ^^^ ·) (key.map swapHalves)
    mul0 := mul0
    mul1 := mul1 }

/-- The bits of a word under a mask. -/
def masked (x mask : UInt64) : UInt64 := x &&& mask

/-- The low result of interleaving the bytes of two neighbouring lanes. -/
def zipLow (x1 x0 : UInt64) : UInt64 :=
  (((masked x0 0xff000000) ||| (masked x1 0xff00000000)) >>> 24) |||
  (((masked x0 0xff0000000000) ||| (masked x1 0xff000000000000)) >>> 16) |||
  (masked x0 0xff0000) ||| ((masked x0 0xff00) <<< 32) |||
  ((masked x1 0xff00000000000000) >>> 8) ||| (x0 <<< 56)

/-- The high result of interleaving the bytes of two neighbouring lanes. -/
def zipHigh (x1 x0 : UInt64) : UInt64 :=
  (((masked x1 0xff000000) ||| (masked x0 0xff00000000)) >>> 24) |||
  (masked x1 0xff0000) ||| ((masked x1 0xff0000000000) >>> 16) |||
  ((masked x1 0xff00) <<< 24) ||| ((masked x0 0xff000000000000) >>> 8) |||
  ((masked x1 0xff) <<< 48) ||| (masked x0 0xff00000000000000)

/-- Interleave the bytes within each pair of lanes. -/
def interleave (x : Lanes) : Lanes :=
  ⟨zipLow x.b x.a, zipHigh x.b x.a, zipLow x.d x.c, zipHigh x.d x.c⟩

/-- The product of the low half of one word and the high half of another. -/
def halfProduct (low high : UInt64) : UInt64 := (masked low 0xffffffff) * (high >>> 32)

/-- Absorb four words. -/
def absorb (s : State) (words : Lanes) : State :=
  let v1 := s.v1.zip (· + ·) (words.zip (· + ·) s.mul0)
  let mul0 := s.mul0.zip (· ^^^ ·) (v1.zip halfProduct s.v0)
  let v0 := s.v0.zip (· + ·) s.mul1
  let mul1 := s.mul1.zip (· ^^^ ·) (v0.zip halfProduct v1)
  let v0 := v0.zip (· + ·) (interleave v1)
  let v1 := v1.zip (· + ·) (interleave v0)
  ⟨v0, v1, mul0, mul1⟩

/-- Eight bytes as a word, the least significant first; missing bytes are zero. -/
def word (bytes : List UInt8) : UInt64 :=
  (bytes.take 8).foldr (fun b acc => (acc <<< 8) ||| b.toUInt64) 0

/-- Thirty-two bytes as four words. -/
def packet (bytes : List UInt8) : Lanes :=
  ⟨word bytes, word (bytes.drop 8), word (bytes.drop 16), word (bytes.drop 24)⟩

/-- Rotate both halves of a word to the left by fewer than 32 bits. -/
def rotateHalves (count : UInt64) (x : UInt64) : UInt64 :=
  let half (h : UInt64) : UInt64 :=
    masked ((h <<< count) ||| (h >>> (32 - count))) 0xffffffff
  half (masked x 0xffffffff) ||| (half (x >>> 32) <<< 32)

/-- The last packet for fewer than 32 remaining bytes. -/
def lastPacket (bytes : List UInt8) : List UInt8 :=
  let size := bytes.length
  let whole := size / 4 * 4
  let odd := size % 4
  let tail := bytes.drop whole
  let body := bytes.take whole ++ List.replicate (32 - whole) 0
  if size ≥ 16 then body.take 28 ++ (bytes.drop (size - 4)).take 4
  else if odd = 0 then body
  else body.take 16 ++ [tail.getD 0 0, tail.getD (odd / 2) 0, tail.getD (odd - 1) 0] ++ body.drop 19

/-- Absorb the bytes that do not fill a packet. -/
def absorbRest (s : State) (bytes : List UInt8) : State :=
  if bytes.isEmpty then s
  else
    let size := bytes.length.toUInt64
    let v0 := s.v0.map (· + ((size <<< 32) + size))
    let v1 := s.v1.map (rotateHalves size)
    absorb { s with v0 := v0, v1 := v1 } (packet (lastPacket bytes))

/-- Absorb all bytes, packet by packet. -/
def absorbAll (s : State) (bytes : List UInt8) : State :=
  if _h : bytes.length < 32 then absorbRest s bytes
  else absorbAll (absorb s (packet (bytes.take 32))) (bytes.drop 32)
termination_by bytes.length
decreasing_by simp only [List.length_drop]; omega

/-- One finishing round. -/
def finishRound (s : State) : State :=
  absorb s ⟨swapHalves s.v0.c, swapHalves s.v0.d, swapHalves s.v0.a, swapHalves s.v0.b⟩

/-- The 64-bit hash of a byte sequence under a 32-byte key. -/
def hash (key bytes : List UInt8) : UInt64 :=
  let s := absorbAll (start (packet key)) bytes
  let s := finishRound (finishRound (finishRound (finishRound s)))
  s.v0.a + s.v1.a + s.mul0.a + s.mul1.a

end Highway

end RoleGraph
