import RoleGraph.Hcl.Expr
import RoleGraph.Text.Blank
import RoleGraph.Text.Cluster

/-!
# Templates

A template is literal text with expressions and directives in it. Sequences may trim the blanks of
the literal text beside them, a flush heredoc loses the indentation that its lines share, and the
directives are then matched with their ends.
-/

namespace RoleGraph

namespace Hcl

/-- A part of a template. -/
inductive Part where
  | literal (t : Text)
  | value (e : Expr)
  | ifMark (condition : Expr)
  | elseMark
  | endIf
  | forMark (key : Option Text) (element : Text) (source : Expr)
  | endFor

/-- A part and whether it trims the literal text before and after it. -/
structure Piece where
  part : Part
  trimBefore : Bool := false
  trimAfter : Bool := false

namespace Part

/-- Trim literal texts beside sequences that ask for it; `trims` when the piece before does. -/
def ofPieces : Bool → List Piece → List Part
  | _, [] => []
  | trims, p :: rest =>
    match p.part with
    | .literal t =>
      let t := if trims then Text.trimStart t else t
      let t := if rest.head?.any (·.trimBefore) then Text.trimEnd t else t
      .literal t :: ofPieces false rest
    | part => part :: ofPieces p.trimAfter rest

/-- Whether a literal ends its line. -/
def endsLine : Part → Bool
  | .literal t => t.getLast? == some 0x0A
  | _ => false

/-- The number of blanks in front of a text. -/
def indentOf (t : Text) : Nat := ((Text.symbols t).takeWhile Symbol.isBlank).length

/-- The indentation of a part at the start of a line. A blank line has none. -/
def indent? (p : Part) : Option Nat :=
  match p with
  | .literal t => if (Text.trimStart t).isEmpty && p.endsLine then none else some (indentOf t)
  | _ => some 0

/-- The indentations of the lines; `atStart` when the next part starts a line. -/
def indents : Bool → List Part → List Nat
  | _, [] => []
  | atStart, p :: rest =>
    let more := indents p.endsLine rest
    match if atStart then p.indent? else none with
    | some n => n :: more
    | none => more

/-- The class of a symbol; a stray byte attaches to nothing. -/
def symbolClass : Symbol → ClusterClass
  | .char c => clusterClass c
  | .stray _ => .other

/-- The symbols after the end of a cluster that has begun. -/
def afterCluster : Cluster → List Symbol → List Symbol
  | _, [] => []
  | c, s :: rest =>
    let k := symbolClass s
    if c.continues k then afterCluster (c.push k) rest else s :: rest

/-- The symbols after some clusters. -/
def dropClusters : Nat → List Symbol → List Symbol
  | 0, ss => ss
  | _ + 1, [] => []
  | n + 1, s :: rest => dropClusters n (afterCluster (.single (symbolClass s)) rest)

/-- Take an indentation off a literal, unless it is a blank line. A mark on the last blank goes with
it. -/
def outdent (n : Nat) (p : Part) : Part :=
  match p, p.indent? with
  | .literal t, some _ => .literal (Text.ofSymbols (dropClusters n (Text.symbols t)))
  | p, _ => p

/-- Take an indentation off every line. -/
def outdentAll (n : Nat) : Bool → List Part → List Part
  | _, [] => []
  | atStart, p :: rest => (if atStart then p.outdent n else p) :: outdentAll n p.endsLine rest

/-- The parts without the indentation that all lines share. -/
def flush (ps : List Part) : List Part :=
  match (indents true ps).min? with
  | some n => outdentAll n true ps
  | none => ps

/-- The expressions up to the end of the enclosing directive. -/
def collect : Nat → List Part → Option (List Expr × List Part)
  | 0, _ => none
  | _ + 1, [] => some ([], [])
  | fuel + 1, p :: rest =>
    let thenCollect (e : Expr) (rest : List Part) : Option (List Expr × List Part) :=
      (collect fuel rest).map fun (es, left) => (e :: es, left)
    match p with
    | .literal t => thenCollect (.literal (.ofText t)) rest
    | .value e => thenCollect e rest
    | .ifMark condition => do
      let (yes, left) ← collect fuel rest
      let (no, left) ← match left with
        | .elseMark :: left => collect fuel left
        | left => some ([], left)
      match left with
      | .endIf :: left => thenCollect (.conditional condition (.template yes) (.template no)) left
      | _ => none
    | .forMark key element source => do
      let (body, left) ← collect fuel rest
      match left with
      | .endFor :: left =>
        thenCollect (.join (.forTuple key element source (.template body) (.literal (.bool true)))) left
      | _ => none
    | .elseMark | .endIf | .endFor => some ([], p :: rest)

/-- The expression that a template is. One that is a single expression has its value, of any type. -/
def toExpr? (ps : List Part) : Option Expr :=
  match ps with
  | [.value e] => some (.whole e)
  | ps =>
    match collect (ps.length + 1) ps with
    | some (es, []) =>
      if ps.all fun
        | .literal _ => true
        | _ => false then
        some (.literal (.ofText (ps.flatMap fun
          | .literal t => t
          | _ => [])))
      else some (.template es)
    | _ => none

end Part

end Hcl

end RoleGraph
