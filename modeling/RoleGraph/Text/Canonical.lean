import RoleGraph.Text.Decomposition
import RoleGraph.Text.Symbol

/-!
# Canonical texts

Texts that look the same can differ in their characters. The canonical form of a text decomposes
every character, puts the marks that follow one in the order of their classes, and composes what can
be composed. Between more than thirty marks in a row a joiner is put, which keeps them apart. Bytes
that belong to no character stay as they are.
-/

namespace RoleGraph

namespace Canonical

/-! ## Syllables -/

/-- The first of the composed Hangul syllables. -/
def syllableBase : Nat := 0xAC00

/-- How many composed Hangul syllables there are. -/
def syllableCount : Nat := 11172

/-- Whether a code point is a composed Hangul syllable. -/
def isSyllable (n : Nat) : Bool := syllableBase ≤ n && n < syllableBase + syllableCount

/-- The two or three letters of a composed Hangul syllable. -/
def letters (n : Nat) : List Nat :=
  let i := n - syllableBase
  let front := [0x1100 + i / 588, 0x1161 + i % 588 / 28]
  if i % 28 = 0 then front else front ++ [0x11A7 + i % 28]

/-- Whether a code point is a vowel of a Hangul syllable. -/
def isVowel (n : Nat) : Bool := 0x1161 ≤ n && n ≤ 0x1175

/-- Whether a code point is the last consonant of a Hangul syllable. -/
def isFinal (n : Nat) : Bool := 0x11A8 ≤ n && n ≤ 0x11C2

/-- The Hangul syllable that two code points compose. -/
def syllable? (a b : Nat) : Option Nat :=
  if 0x1100 ≤ a && a ≤ 0x1112 && isVowel b then
    some (syllableBase + (a - 0x1100) * 588 + (b - 0x1161) * 28)
  else if isSyllable a && (a - syllableBase) % 28 == 0 && isFinal b then some (a + (b - 0x11A7))
  else none

/-! ## Characters -/

/-- The class of a code point; what starts a sequence of marks has class zero. -/
def classOf (n : Nat) : Nat :=
  if n < 0x300 then 0
  else ((Decomposition.classes.find? fun (_, rs) => rs.has n).map (·.1)).getD 0

/-- The code point that two others compose. -/
def compose? (a b : Nat) : Option Nat :=
  if b < 0x300 then none
  else match syllable? a b with
    | some n => some n
    | none => (Decomposition.pairs.find? fun (_, x, y) => x == a && y == b).map (·.1)

/-- The full decomposition of a code point, in at most `fuel` steps. -/
def expand : Nat → Nat → List Nat
  | 0, n => [n]
  | fuel + 1, n =>
    if n < 0xC0 then [n]
    else if isSyllable n then letters n
    else match Decomposition.steps.lookup n with
      | some parts => parts.flatMap (expand fuel)
      | none => [n]

/-- The most steps that a decomposition takes. -/
def depth : Nat := 4

/-- The decomposition of a symbol. -/
def decompose : Symbol → List Symbol
  | .char c => (expand depth c.toNat).map fun n => .char (Char.ofNat n)
  | .stray b => [.stray b]

/-- The class of a symbol. -/
def markClass : Symbol → Nat
  | .char c => classOf c.toNat
  | .stray _ => 0

/-- The symbol that two others compose. -/
def join? : Symbol → Symbol → Option Symbol
  | .char a, .char b => (compose? a.toNat b.toNat).map fun n => .char (Char.ofNat n)
  | _, _ => none

/-! ## Joiners -/

/-- The most marks in a row. -/
def markLimit : Nat := 30

/-- The joiner that keeps marks apart. -/
def joiner : Symbol := .char '\u034F'

/-- Whether a symbol attaches to the one before: a mark, or what is composed with it. -/
def attaches (s : Symbol) : Bool :=
  markClass s != 0 || match s with
    | .char c =>
      let n := c.toNat
      0x300 ≤ n && (isVowel n || isFinal n || Decomposition.pairs.any fun (_, _, b) => b == n)
    | .stray _ => false

/-- Put joiners between too many marks; `count` marks stand before. -/
def separate : Nat → List Symbol → List Symbol
  | _, [] => []
  | count, s :: rest =>
    let parts := decompose s
    let leading := (parts.takeWhile attaches).length
    if leading = 0 then s :: separate (parts.reverse.takeWhile attaches).length rest
    else if markLimit < count + leading then joiner :: s :: separate leading rest
    else s :: separate (count + leading) rest

/-! ## Order and composition -/

/-- Insert a mark behind those of its class or of a lower one. -/
def insertMark (s : Symbol) : List Symbol → List Symbol
  | [] => [s]
  | t :: rest => if markClass s < markClass t then s :: t :: rest else t :: insertMark s rest

/-- Put marks in a row in the order of their classes; `marks` stand before. -/
def order : List Symbol → List Symbol → List Symbol
  | marks, [] => marks
  | marks, s :: rest =>
    if markClass s = 0 then marks ++ s :: order [] rest else order (insertMark s marks) rest

/-- Compose a starter with what follows. `kept` holds the marks after it that stay, the last one
first; a mark of the same class, or of a higher one, in between keeps two symbols apart. -/
def composeFrom : Symbol → List Symbol → List Symbol → List Symbol
  | starter, kept, [] => starter :: kept.reverse
  | starter, kept, s :: rest =>
    let blocked := kept.head?.any fun k => markClass s ≤ markClass k
    match if blocked then none else join? starter s with
    | some joined => composeFrom joined kept rest
    | none =>
      if markClass s = 0 then starter :: kept.reverse ++ composeFrom s [] rest
      else composeFrom starter (s :: kept) rest

/-- Compose what can be composed. -/
def composeAll : List Symbol → List Symbol
  | [] => []
  | s :: rest => composeFrom s [] rest

end Canonical

/-- The canonical form of a text. -/
def Text.canonical (t : Text) : Text :=
  let parts := (Canonical.separate 0 (Text.symbols t)).flatMap Canonical.decompose
  Text.ofSymbols (Canonical.composeAll (Canonical.order [] parts))

end RoleGraph
