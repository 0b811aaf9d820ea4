import RoleGraph.Text.Category

/-!
# Letters and decimal digits

The general categories letter and decimal digit, on which the natural order of mapping keys rests.
-/

namespace RoleGraph

/-- The letters. -/
def letterRanges : Ranges := Category.select (Category.inClass 'L')

/-- The decimal digits. -/
def digitRanges : Ranges := Category.select (· == "Nd")

/-- The general category letter. -/
def isLetter (c : Char) : Bool :=
  if c.toNat < 0x80 then c.isAlpha else letterRanges.has c.toNat

/-- The general category decimal digit. -/
def isDecimalDigit (c : Char) : Bool :=
  if c.toNat < 0x80 then c.isDigit else digitRanges.has c.toNat

end RoleGraph
