import RoleGraph.Text.Category

/-!
# Printable characters

The characters that a quoted text shows as they are. Separators other than the ASCII space, control
and format characters and everything unassigned are not printable.
-/

namespace RoleGraph

/-- Letters, marks, numbers, punctuation and symbols. -/
def printableRanges : Ranges :=
  Category.select fun name =>
    !(Category.inClass 'C' name || Category.inClass 'Z' name)

/-- Letters, marks, numbers, punctuation, symbols and the ASCII space. -/
def isPrintable (c : Char) : Bool :=
  let n := c.toNat
  if n < 0x80 then 0x20 ≤ n && n < 0x7F else printableRanges.has n

end RoleGraph
