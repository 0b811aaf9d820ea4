/-!
# Ranges of code points

Tables of Unicode properties are written as ranges in hexadecimal: `41-5A AA 100-12E/2` stands for
the code points from U+0041 to U+005A, for U+00AA and for every second one from U+0100 to U+012E.
-/

namespace RoleGraph

/-- Ranges of code points, both ends included. -/
abbrev Ranges := List (Nat × Nat)

namespace Ranges

/-- Whether a code point lies in one of the ranges. -/
def has (rs : Ranges) (n : Nat) : Bool := rs.any fun (lo, hi) => lo ≤ n && n ≤ hi

/-- The value of an upper-case hexadecimal digit. -/
def digitValue (c : Char) : Nat := if c.toNat < 65 then c.toNat - 48 else c.toNat - 55

/-- A range that is being read. -/
structure Reader where
  /-- The ranges before, the last one first. -/
  done : Ranges := []
  first : Option Nat := none
  value : Nat := 0
  /-- Only every second code point is meant. -/
  alternate : Bool := false

/-- Finish the current range. -/
def Reader.close (r : Reader) : Reader :=
  let lo := r.first.getD r.value
  if r.alternate then
    ⟨(List.range ((r.value - lo) / 2 + 1)).foldl (fun rs i => (lo + 2 * i, lo + 2 * i) :: rs) r.done,
      none, 0, false⟩
  else ⟨(lo, r.value) :: r.done, none, 0, false⟩

/-- Read one character of a table. -/
def Reader.step (r : Reader) (c : Char) : Reader :=
  if c == ' ' then r.close
  else if c == '-' then { r with first := some r.value, value := 0 }
  else if c == '/' then { r with alternate := true }
  else if r.alternate then r
  else { r with value := r.value * 16 + digitValue c }

/-- The ranges that the lines of a table list. -/
def ofTable (lines : List String) : Ranges :=
  let read (r : Reader) (line : String) : Reader := (line.toList.foldl Reader.step r).close
  (lines.foldl read {}).done.reverse

/-- The ranges outside of some ranges, which need not be ordered. -/
def complement (rs : Ranges) : Ranges :=
  let sorted := rs.mergeSort fun a b => a.1 ≤ b.1
  let (next, gaps) := sorted.foldl (fun (next, gaps) (lo, hi) =>
    (max next (hi + 1), if next < lo then (next, lo - 1) :: gaps else gaps)) (0, [])
  (if next ≤ 0x10FFFF then (next, 0x10FFFF) :: gaps else gaps).reverse

end Ranges

end RoleGraph
