import RoleGraph.Text.Symbol

/-!
# White space

White space is the Unicode property: the ASCII blanks and line breaks, next line, and the space
separators. Trimming and splitting into words follow it; a stray byte is never white space.
-/

namespace RoleGraph

/-- The characters with the Unicode white-space property. -/
def isBlankChar (c : Char) : Bool :=
  let n := c.toNat
  (0x09 ≤ n && n ≤ 0x0D) || n == 0x20 || n == 0x85 || n == 0xA0 || n == 0x1680 ||
    (0x2000 ≤ n && n ≤ 0x200A) || n == 0x2028 || n == 0x2029 || n == 0x202F || n == 0x205F ||
    n == 0x3000

/-- A symbol that is white space. -/
def Symbol.isBlank : Symbol → Bool
  | .char c => isBlankChar c
  | .stray _ => false

namespace Text

/-- The text without white space at its start. -/
def trimStart (t : Text) : Text := ofSymbols ((symbols t).dropWhile Symbol.isBlank)

/-- The text without white space at its end. -/
def trimEnd (t : Text) : Text := ofSymbols ((symbols t).reverse.dropWhile Symbol.isBlank).reverse

/-- The text without white space at either end. -/
def trim (t : Text) : Text :=
  let inner := (symbols t).dropWhile Symbol.isBlank
  ofSymbols (inner.reverse.dropWhile Symbol.isBlank).reverse

/-- Collect the maximal runs of symbols that are not white space. -/
def wordsOf : List Symbol → List Symbol → List Text
  | [], word => if word.isEmpty then [] else [ofSymbols word.reverse]
  | s :: rest, word =>
    if s.isBlank then
      if word.isEmpty then wordsOf rest [] else ofSymbols word.reverse :: wordsOf rest []
    else wordsOf rest (s :: word)

/-- The words of a text: its maximal runs without white space. -/
def words (t : Text) : List Text := wordsOf (symbols t) []

end Text

end RoleGraph
