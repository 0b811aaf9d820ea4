/-!
# Texts

File names, variable values and file contents are byte sequences. Most of them are UTF-8, but a
file name or a decoded binary scalar may hold any bytes, so `Text` is a list of bytes and string
literals stand for their UTF-8 bytes. The operations here never look inside a multi-byte
character: they compare, split and trim at ASCII bytes only.
-/

namespace RoleGraph

/-- A text is a sequence of bytes. -/
abbrev Text := List UInt8

namespace Text

/-- Texts are compared byte by byte. -/
instance lawfulBEq : LawfulBEq Text := inferInstance

/-- The UTF-8 bytes of one character. -/
def encodeChar (c : Char) : Text :=
  let n := c.toNat
  if n < 0x80 then [n.toUInt8]
  else if n < 0x800 then [(0xC0 + n / 64).toUInt8, (0x80 + n % 64).toUInt8]
  else if n < 0x10000 then
    [(0xE0 + n / 4096).toUInt8, (0x80 + n / 64 % 64).toUInt8, (0x80 + n % 64).toUInt8]
  else
    [(0xF0 + n / 262144).toUInt8, (0x80 + n / 4096 % 64).toUInt8,
      (0x80 + n / 64 % 64).toUInt8, (0x80 + n % 64).toUInt8]

/-- The UTF-8 bytes of a character sequence. -/
def ofChars (cs : List Char) : Text := cs.flatMap encodeChar

/-- The UTF-8 bytes of a string. -/
def ofString (s : String) : Text := ofChars s.toList

instance : Coe String Text := ⟨ofString⟩

/-- The byte of an ASCII character. -/
def byte (c : Char) : UInt8 := c.toNat.toUInt8

/-- A single `/`. -/
def slash : UInt8 := 0x2F

/-- The decimal numeral of a natural number. -/
def ofNat (n : Nat) : Text := ofChars (Nat.toDigits 10 n)

/-- The decimal numeral of an integer. -/
def ofInt : Int → Text
  | .ofNat n => ofNat n
  | .negSucc n => byte '-' :: ofNat (n + 1)

/-- The lower-case hexadecimal digits of a number, padded on the left to a given width. -/
def hex (width n : Nat) : Text :=
  let digits := ofChars (Nat.toDigits 16 n)
  List.replicate (width - digits.length) (byte '0') ++ digits

/-- Whether `part` occurs somewhere in the text. -/
def has (part : Text) : Text → Bool
  | [] => part.isEmpty
  | b :: rest => part.isPrefixOf (b :: rest) || has part rest

/-- The text without a leading `part`, when it has one. -/
def dropLeading (part t : Text) : Text :=
  if part.isPrefixOf t then t.drop part.length else t

/-- The text without a trailing `part`, when it has one. -/
def dropTrailing (part t : Text) : Text :=
  if part.isSuffixOf t then t.take (t.length - part.length) else t

/-- Drop from the end every byte that satisfies the predicate. -/
def dropRightWhile (p : UInt8 → Bool) (t : Text) : Text := (t.reverse.dropWhile p).reverse

/-- Drop every slash at both ends. -/
def trimSlashes (t : Text) : Text := dropRightWhile (· == slash) (t.dropWhile (· == slash))

/-- Cut at every occurrence of a byte; `n` occurrences give `n + 1` pieces. -/
def splitAt (sep : UInt8) : Text → List Text
  | [] => [[]]
  | b :: rest =>
    if b = sep then [] :: splitAt sep rest
    else match splitAt sep rest with
      | [] => [[b]]
      | piece :: pieces => (b :: piece) :: pieces

/-- Put a separator between consecutive texts. -/
def joinWith (sep : Text) : List Text → Text
  | [] => []
  | [t] => t
  | t :: rest => t ++ sep ++ joinWith sep rest

/-- The parts before and after the first occurrence of a byte. -/
def cut? (sep : UInt8) : Text → Option (Text × Text)
  | [] => none
  | b :: rest =>
    if b = sep then some ([], rest)
    else (cut? sep rest).map fun (before, after) => (b :: before, after)

/-- Replace every occurrence of a non-empty pattern, scanning from the left without overlap. -/
def replace (pattern new : Text) (t : Text) : Text :=
  go t 0
where
  /-- `skip` counts the bytes of a match that still have to be passed over. -/
  go : Text → Nat → Text
    | [], _ => []
    | _ :: rest, skip + 1 => go rest skip
    | b :: rest, 0 =>
      if !pattern.isEmpty && pattern.isPrefixOf (b :: rest)
      then new ++ go rest (pattern.length - 1)
      else b :: go rest 0

/-- Byte order as a Boolean test, for sorting. -/
def le (a b : Text) : Bool := decide (a ≤ b)

/-- The texts in byte order. -/
def sort (ts : List Text) : List Text := ts.mergeSort le

/-- The first occurrence of a byte is the one that has none before it. -/
theorem cut?_append_cons {sep : UInt8} {before : Text} (h : sep ∉ before) (after : Text) :
    cut? sep (before ++ sep :: after) = some (before, after) := by
  induction before with
  | nil => exact if_pos rfl
  | cons b rest ih =>
    obtain ⟨hb, hrest⟩ := not_or.mp (mt List.mem_cons.mpr h)
    rw [List.cons_append, cut?, if_neg (Ne.symm hb), ih hrest]
    rfl

/-- A text without the byte has no parts around it. -/
theorem cut?_of_notMem {sep : UInt8} {t : Text} (h : sep ∉ t) : cut? sep t = none := by
  induction t with
  | nil => rfl
  | cons b rest ih =>
    obtain ⟨hb, hrest⟩ := not_or.mp (mt List.mem_cons.mpr h)
    rw [cut?, if_neg (Ne.symm hb), ih hrest]
    rfl

/-- Splitting never returns an empty list of pieces. -/
theorem splitAt_ne_nil (sep : UInt8) (t : Text) : splitAt sep t ≠ [] := by
  cases t with
  | nil => simp [splitAt]
  | cons b rest =>
    simp only [splitAt]
    split
    · simp
    · split <;> simp

end Text

end RoleGraph
