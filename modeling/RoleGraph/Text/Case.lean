import RoleGraph.Text.Symbol

/-!
# Names without regard to case

Option and format names are compared in lower case. The names themselves are ASCII, so the only
case mappings that matter are those with an ASCII result: the ASCII letters, the dotted capital I
(U+0130) and the Kelvin sign (U+212A). Folding adds the long s (U+017F).
-/

namespace RoleGraph

/-- Lower case, for every character whose lower case is ASCII. -/
def lowerChar (c : Char) : Char :=
  if c == '\u0130' then 'i' else if c == '\u212A' then 'k' else c.toLower

/-- Case folding, for every character that folds to an ASCII letter. -/
def foldChar (c : Char) : Char :=
  if c == '\u017F' then 's' else if c == '\u212A' then 'k' else c.toLower

namespace Text

/-- Apply a character mapping and leave stray bytes alone. -/
def mapChars (f : Char → Char) (t : Text) : Text :=
  ofSymbols ((symbols t).map fun
    | .char c => .char (f c)
    | s => s)

/-- The text in lower case. -/
def lower (t : Text) : Text := mapChars lowerChar t

/-- Equality of a text and an ASCII name up to case. -/
def sameFolded (t name : Text) : Bool := mapChars foldChar t == mapChars foldChar name

end Text

end RoleGraph
