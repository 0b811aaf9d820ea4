import RoleGraph.Text.Ranges

/-!
# Regular expressions

Expressions over characters with anchors. A search goes through the text once with marks on the
expression: a set of characters is marked when some begun match has just read a character with it.
Reading the next character moves every mark to the sets that may follow. An anchor looks at the
characters on both sides of a position and consumes none, so whether a mark passes over a part
depends on the position.
-/

namespace RoleGraph

/-- A set of characters: ranges, or everything outside of them. -/
structure CharSet where
  negated : Bool := false
  ranges : Ranges
  deriving DecidableEq, Repr

namespace CharSet

/-- Whether a character belongs to a set. -/
def has (s : CharSet) (c : Char) : Bool :=
  s.negated != s.ranges.has c.toNat

/-- Every character but the line feed. -/
def anyInLine : CharSet := ⟨true, [(10, 10)]⟩

end CharSet

/-- What an anchor asks of a position. -/
inductive Anchor where
  | start
  | stop
  /-- A word character on exactly one side. -/
  | wordBoundary
  /-- Word characters on both sides or on neither. -/
  | noWordBoundary
  deriving DecidableEq, Repr

/-- ASCII letters, digits and the underscore. -/
def isWordChar (c : Char) : Bool := c.isAlphanum || c == '_'

/-- Whether an anchor holds between two characters; no character stands for an end of the text. -/
def Anchor.holds (before after : Option Char) : Anchor → Bool
  | .start => before.isNone
  | .stop => after.isNone
  | .wordBoundary => before.any isWordChar != after.any isWordChar
  | .noWordBoundary => before.any isWordChar == after.any isWordChar

/-- A regular expression. -/
inductive Regex where
  | empty
  | set (s : CharSet)
  | anchor (a : Anchor)
  | cat (r s : Regex)
  | alt (r s : Regex)
  | star (r : Regex)
  deriving DecidableEq, Repr

namespace Regex

/-- One or more times. -/
def plus (r : Regex) : Regex := .cat r (.star r)

/-- Exactly `n` times. -/
def times (r : Regex) : Nat → Regex
  | 0 => .empty
  | n + 1 => .cat r (times r n)

/-- At most `n` times. -/
def atMost (r : Regex) : Nat → Regex
  | 0 => .empty
  | n + 1 => .alt .empty (.cat r (atMost r n))

/-- All alternatives of a non-empty list. -/
def altAll : List Regex → Regex
  | [] => .empty
  | [r] => r
  | r :: rest => .alt r (altAll rest)

/-- All parts in sequence. -/
def catAll : List Regex → Regex
  | [] => .empty
  | [r] => r
  | r :: rest => .cat r (catAll rest)

end Regex

/-- A regular expression with marks on the sets that a begun match has just read a character with. -/
inductive Marked where
  | empty
  | set (s : CharSet) (mark : Bool)
  | anchor (a : Anchor)
  | cat (r s : Marked)
  | alt (r s : Marked)
  | star (r : Marked)
  deriving DecidableEq, Repr

namespace Marked

/-- An expression without marks. -/
def ofRegex : Regex → Marked
  | .empty => .empty
  | .set s => .set s false
  | .anchor a => .anchor a
  | .cat r s => .cat (ofRegex r) (ofRegex s)
  | .alt r s => .alt (ofRegex r) (ofRegex s)
  | .star r => .star (ofRegex r)

/-- Whether a match ends at a position, when one begins there or not. -/
def ends (before after : Option Char) (begins : Bool) : Marked → Bool
  | .empty => begins
  | .set _ mark => mark
  | .anchor a => begins && a.holds before after
  | .cat r s => ends before after (ends before after begins r) s
  | .alt r s => ends before after begins r || ends before after begins s
  | .star r => begins || ends before after false r

/-- The marks after a character, when a match begins before it or not, and whether a match ends
before it. -/
def advance (before : Option Char) (c : Char) (begins : Bool) : Marked → Marked × Bool
  | .empty => (.empty, begins)
  | .set s mark => (.set s (begins && s.has c), mark)
  | .anchor a => (.anchor a, begins && a.holds before (some c))
  | .cat r s =>
    let (r, ended) := advance before c begins r
    let (s, ended) := advance before c ended s
    (.cat r s, ended)
  | .alt r s =>
    let (r, left) := advance before c begins r
    let (s, right) := advance before c begins s
    (.alt r s, left || right)
  | .star r =>
    let begins := begins || ends before (some c) false r
    (.star (advance before c begins r).1, begins)

/-- Whether a match ends in the rest of a text; one may begin at every position. -/
def searchFrom (r : Marked) (before : Option Char) : List Char → Bool
  | [] => r.ends before none true
  | c :: rest =>
    let (next, ended) := r.advance before c true
    ended || searchFrom next (some c) rest

end Marked

/-- Whether an expression matches somewhere in a text. -/
def Regex.search (r : Regex) (text : List Char) : Bool := (Marked.ofRegex r).searchFrom none text

end RoleGraph
