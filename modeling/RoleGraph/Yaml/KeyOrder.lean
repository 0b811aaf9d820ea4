import RoleGraph.Text.Letter
import RoleGraph.Text.Symbol
import RoleGraph.Word
import RoleGraph.Yaml.Value

/-!
# The natural order of keys

Written mappings list their keys in an order that reads naturally: numbers and truth values by
size, then null, strings and times. Strings are compared character by character, and runs of
digits as numbers, so `item9` comes before `item10`.
-/

namespace RoleGraph.Yaml

/-- The number that the digits at the front of some characters stand for, after `start`, with the
length of the run. Long runs wrap around at 64 bits. -/
def digitRun (start : Int64) (cs : List Char) : Int64 × Nat :=
  let run := cs.takeWhile isDecimalDigit
  (run.foldl (fun n c => n * 10 + Int64.ofInt ((c.toNat : Int) - 48)) start, run.length)

/-- Whether a digit other than zero precedes directly in the same run; the characters before are
given in reverse. -/
def startsNonzero (before : List Char) : Bool :=
  (before.takeWhile isDecimalDigit).any (· != '0')

/-- Whether characters stand before others in the natural order. `before` holds the equal
characters already passed, in reverse. -/
def naturalBefore (before : List Char) : List Char → List Char → Bool
  | a :: as, b :: bs =>
    if a = b then naturalBefore (a :: before) as bs
    else
      let afterDigit := match before with
        | c :: _ => isDecimalDigit c
        | [] => false
      match isLetter a, isLetter b with
      | true, true => a < b
      | true, false => afterDigit
      | false, true => !afterDigit
      | false, false =>
        let start := if (a == '0' || b == '0') && startsNonzero before then 1 else 0
        let (m, i) := digitRun start (a :: as)
        let (n, j) := digitRun start (b :: bs)
        if m ≠ n then m < n
        else if i ≠ j then i < j
        else a < b
  | [], _ :: _ => true
  | _, [] => false

/-- The size of a number or truth value. -/
def Scalar.size? : Scalar → Option Double
  | .bool b => some (Double.ofInt (if b then 1 else 0))
  | .int n => some (Double.ofInt n)
  | .float x => some x
  | _ => none

/-- The order of the types among keys of equal size and among other keys. -/
def Scalar.kindRank : Scalar → Nat
  | .bool _ => 1
  | .int n => if n < Word.signedBound then 2 else 11
  | .float _ => 14
  | .null => 20
  | .str _ => 24
  | .time _ => 25

/-- Whether a key is written before another. -/
def Scalar.writtenBefore (a b : Scalar) : Bool :=
  match a.size?, b.size? with
  | some x, some y =>
    if !x.same y then x.lt y
    else if a.kindRank ≠ b.kindRank then a.kindRank < b.kindRank
    else match a, b with
      | .bool p, .bool q => !p && q
      | .int m, .int n => m < n
      | _, _ => false
  | _, _ =>
    match a, b with
    | .str s, .str t => naturalBefore [] s.charsLossy t.charsLossy
    | _, _ => a.kindRank < b.kindRank

end RoleGraph.Yaml
