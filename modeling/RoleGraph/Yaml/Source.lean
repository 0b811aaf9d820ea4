import RoleGraph.Text.Symbol

/-!
# Characters of a document

A document is UTF-8 unless it starts with a UTF-16 byte order mark. Every character must be
printable in the format's own sense: the tab, the line breaks and everything except the other
control characters, surrogates and the two non-characters at the end of the basic plane.

A document is decoded piece by piece, and only as far as its reader gets. A piece with a byte that
belongs to no allowed character is lost as a whole, so it matters only to a reader that needs a
character of that piece.
-/

namespace RoleGraph.Yaml

/-- Characters that may stand in a document. -/
def isAllowed (c : Char) : Bool :=
  let n := c.toNat
  n == 0x09 || n == 0x0A || n == 0x0D || (0x20 ≤ n && n ≤ 0x7E) || n == 0x85 ||
    (0xA0 ≤ n && n ≤ 0xFFFD) || 0x10000 ≤ n

/-- The encodings of a document. -/
inductive Encoding where
  | utf8
  | utf16 (bigEndian : Bool)
  deriving DecidableEq, Repr

/-- What stands at the front of some bytes. -/
inductive Front where
  | char (c : Char) (width : Nat)
  /-- The beginning of a character that the bytes cut off. -/
  | cutOff
  /-- No character starts like this. -/
  | broken

/-- The number of bytes of a UTF-8 character, by its first byte. -/
def utf8Width (a : UInt8) : Nat :=
  if a < 0x80 then 1
  else if 0xC0 ≤ a && a < 0xE0 then 2
  else if 0xE0 ≤ a && a < 0xF0 then 3
  else if 0xF0 ≤ a && a < 0xF8 then 4
  else 0

/-- The UTF-8 character at the front of some bytes. -/
def utf8Front : Text → Front
  | [] => .cutOff
  | a :: rest =>
    let width := utf8Width a
    if width = 0 then .broken
    else
      let bytes := a :: rest.take (width - 1)
      if bytes.length < width then .cutOff
      else match Text.symbols bytes with
        | [.char c] => .char c width
        | _ => .broken

/-- The UTF-16 code unit of two bytes. -/
def unit16 (bigEndian : Bool) (a b : UInt8) : Nat :=
  if bigEndian then b.toNat + 256 * a.toNat else a.toNat + 256 * b.toNat

/-- The UTF-16 character at the front of some bytes. -/
def utf16Front (bigEndian : Bool) : Text → Front
  | a :: b :: rest =>
    let u := unit16 bigEndian a b
    if 0xDC00 ≤ u && u < 0xE000 then .broken
    else if 0xD800 ≤ u && u < 0xDC00 then
      match rest with
      | c :: d :: _ =>
        let v := unit16 bigEndian c d
        if 0xDC00 ≤ v && v < 0xE000 then
          .char (Char.ofNat (0x10000 + (u - 0xD800) * 0x400 + (v - 0xDC00))) 4
        else .broken
      | _ => .cutOff
    else .char (Char.ofNat u) 2
  | _ => .cutOff

/-- The character at the front of some bytes, in a given encoding. -/
def Encoding.front : Encoding → Text → Front
  | .utf8, t => utf8Front t
  | .utf16 bigEndian, t => utf16Front bigEndian t

/-- The characters of a piece, the last one first, and the bytes at its end that are the beginning
of a character. `skip` counts the bytes of a character that has been decoded already. -/
def decodePiece (e : Encoding) : Nat → List Char → Text → Option (List Char × Text)
  | _, acc, [] => some (acc, [])
  | skip + 1, acc, _ :: rest => decodePiece e skip acc rest
  | 0, acc, b :: rest =>
    match e.front (b :: rest) with
    | .cutOff => some (acc, b :: rest)
    | .broken => none
    | .char c width =>
      if isAllowed c then decodePiece e (width - 1) (c :: acc) rest else none

/-- The characters of a document as far as they can be read. -/
structure Source where
  chars : List Char
  /-- More follows, but it cannot be decoded. -/
  torn : Bool := false

/-- The number of bytes that are decoded at a time. -/
def pieceSize : Nat := 512

/-- Decode piece after piece; `acc` holds the characters of the pieces before, in reverse. A piece
starts with the bytes that the one before could not use. -/
def decodePieces (e : Encoding) : Nat → Nat → List Char → Text → Source
  | 0, _, acc, _ => ⟨acc.reverse, true⟩
  | fuel + 1, size, acc, t =>
    if t.isEmpty then ⟨acc.reverse, false⟩
    else match decodePiece e 0 acc (t.take size) with
      | none => ⟨acc.reverse, true⟩
      | some (acc, left) =>
        if left.length = (t.take size).length then ⟨acc.reverse, true⟩
        else decodePieces e fuel pieceSize acc (left ++ t.drop size)

/-- The characters of a document, in the encoding that its first bytes announce. The mark of the
encoding is part of the first piece. -/
def Source.ofText (t : Text) : Source :=
  let decode (e : Encoding) (mark : Nat) : Source :=
    decodePieces e (t.length + 1) (pieceSize - mark) [] (t.drop mark)
  match t with
  | 0xFF :: 0xFE :: _ => decode (.utf16 false) 2
  | 0xFE :: 0xFF :: _ => decode (.utf16 true) 2
  | 0xEF :: 0xBB :: 0xBF :: _ => decode .utf8 3
  | _ => decode .utf8 0

end RoleGraph.Yaml
