import RoleGraph.Text.Basic

/-!
# Characters of a text

Reading a text as UTF-8 gives one symbol per well-formed character and one per byte that belongs
to none. No byte is lost: writing the symbols back restores the text.
-/

namespace RoleGraph

/-- One unit of a text read as UTF-8. -/
inductive Symbol where
  /-- A well-formed character. -/
  | char (c : Char)
  /-- A byte that is not part of a well-formed character. -/
  | stray (b : UInt8)
  deriving DecidableEq, Repr

/-- The bytes a symbol was read from. -/
def Symbol.bytes : Symbol → Text
  | .char c => Text.encodeChar c
  | .stray b => [b]

namespace Text

/-- A byte that may follow a lead byte. -/
def isTail (b : UInt8) : Bool := 0x80 ≤ b && b ≤ 0xBF

/-- The two bytes form a character. -/
def isPair (a b : UInt8) : Bool := 0xC2 ≤ a && a ≤ 0xDF && isTail b

/-- The three bytes form a character: no overlong form and no surrogate. -/
def isTriple (a b c : UInt8) : Bool :=
  0xE0 ≤ a && a ≤ 0xEF && isTail b && isTail c && (a != 0xE0 || 0xA0 ≤ b) && (a != 0xED || b ≤ 0x9F)

/-- The four bytes form a character: no overlong form and nothing above U+10FFFF. -/
def isQuad (a b c d : UInt8) : Bool :=
  0xF0 ≤ a && a ≤ 0xF4 && isTail b && isTail c && isTail d &&
    (a != 0xF0 || 0x90 ≤ b) && (a != 0xF4 || b ≤ 0x8F)

/-- The payload of a tail byte. -/
def tailBits (b : UInt8) : Nat := b.toNat % 64

/-- The symbols of a text, from left to right. -/
def symbols : Text → List Symbol
  | [] => []
  | a :: r =>
    if a < 0x80 then .char (Char.ofNat a.toNat) :: symbols r
    else match r with
      | [] => [.stray a]
      | b :: r2 =>
        if isPair a b then .char (Char.ofNat (a.toNat % 32 * 64 + tailBits b)) :: symbols r2
        else match r2 with
          | [] => .stray a :: symbols [b]
          | c :: r3 =>
            if isTriple a b c then
              .char (Char.ofNat (a.toNat % 16 * 4096 + tailBits b * 64 + tailBits c)) :: symbols r3
            else match r3 with
              | [] => .stray a :: symbols [b, c]
              | d :: r4 =>
                if isQuad a b c d then
                  .char (Char.ofNat (a.toNat % 8 * 262144 + tailBits b * 4096 + tailBits c * 64
                    + tailBits d)) :: symbols r4
                else .stray a :: symbols (b :: c :: d :: r4)

/-- The text that symbols spell. -/
def ofSymbols (ss : List Symbol) : Text := ss.flatMap Symbol.bytes

/-- The characters of a text, when all of it is UTF-8. -/
def chars? (t : Text) : Option (List Char) :=
  (symbols t).mapM fun
    | .char c => some c
    | .stray _ => none

/-- Whether the whole text is UTF-8. -/
def isUtf8 (t : Text) : Bool := (chars? t).isSome

/-- The characters of a text, with U+FFFD for every stray byte. -/
def charsLossy (t : Text) : List Char :=
  (symbols t).map fun
    | .char c => c
    | .stray _ => '\uFFFD'

/-- The text as a string, with U+FFFD for every stray byte. -/
def toString (t : Text) : String := String.ofList (charsLossy t)

end Text

end RoleGraph
