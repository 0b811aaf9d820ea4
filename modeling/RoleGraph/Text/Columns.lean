import RoleGraph.Text.Cluster
import RoleGraph.Text.Symbol
import RoleGraph.Text.Terminal

/-!
# Terminal columns

The number of columns a line of text takes in a terminal: one for most characters, two for wide
ones and for pictures shown as emoji, none for control characters, marks that extend another
character and terminal control sequences.
-/

namespace RoleGraph

/-- Characters with East Asian width wide or full-width. -/
def wideBounds : List Nat :=
  [0x1100, 0x1160, 0x231A, 0x231C, 0x2329, 0x232B, 0x23E9, 0x23ED, 0x23F0, 0x23F1, 0x23F3, 0x23F4,
   0x25FD, 0x25FF, 0x2614, 0x2616, 0x2648, 0x2654, 0x267F, 0x2680, 0x2693, 0x2694, 0x26A1, 0x26A2,
   0x26AA, 0x26AC, 0x26BD, 0x26BF, 0x26C4, 0x26C6, 0x26CE, 0x26CF, 0x26D4, 0x26D5, 0x26EA, 0x26EB,
   0x26F2, 0x26F4, 0x26F5, 0x26F6, 0x26FA, 0x26FB, 0x26FD, 0x26FE, 0x2705, 0x2706, 0x270A, 0x270C,
   0x2728, 0x2729, 0x274C, 0x274D, 0x274E, 0x274F, 0x2753, 0x2756, 0x2757, 0x2758, 0x2795, 0x2798,
   0x27B0, 0x27B1, 0x27BF, 0x27C0, 0x2B1B, 0x2B1D, 0x2B50, 0x2B51, 0x2B55, 0x2B56, 0x2E80, 0x2E9A,
   0x2E9B, 0x2EF4, 0x2F00, 0x2FD6, 0x2FF0, 0x2FFC, 0x3000, 0x303F, 0x3041, 0x3097, 0x3099, 0x3100,
   0x3105, 0x3130, 0x3131, 0x318F, 0x3190, 0x31E4, 0x31F0, 0x321F, 0x3220, 0x3248, 0x3250, 0x4DC0,
   0x4E00, 0xA48D, 0xA490, 0xA4C7, 0xA960, 0xA97D, 0xAC00, 0xD7A4, 0xF900, 0xFB00, 0xFE10, 0xFE1A,
   0xFE30, 0xFE53, 0xFE54, 0xFE67, 0xFE68, 0xFE6C, 0xFF01, 0xFF61, 0xFFE0, 0xFFE7, 0x16FE0,
   0x16FE5, 0x16FF0, 0x16FF2, 0x17000, 0x187F8, 0x18800, 0x18CD6, 0x18D00, 0x18D09, 0x1AFF0,
   0x1AFF4, 0x1AFF5, 0x1AFFC, 0x1AFFD, 0x1AFFF, 0x1B000, 0x1B123, 0x1B132, 0x1B133, 0x1B150,
   0x1B153, 0x1B155, 0x1B156, 0x1B164, 0x1B168, 0x1B170, 0x1B2FC, 0x1F004, 0x1F005, 0x1F0CF,
   0x1F0D0, 0x1F18E, 0x1F18F, 0x1F191, 0x1F19B, 0x1F200, 0x1F203, 0x1F210, 0x1F23C, 0x1F240,
   0x1F249, 0x1F250, 0x1F252, 0x1F260, 0x1F266, 0x1F300, 0x1F321, 0x1F32D, 0x1F336, 0x1F337,
   0x1F37D, 0x1F37E, 0x1F394, 0x1F3A0, 0x1F3CB, 0x1F3CF, 0x1F3D4, 0x1F3E0, 0x1F3F1, 0x1F3F4,
   0x1F3F5, 0x1F3F8, 0x1F43F, 0x1F440, 0x1F441, 0x1F442, 0x1F4FD, 0x1F4FF, 0x1F53E, 0x1F54B,
   0x1F54F, 0x1F550, 0x1F568, 0x1F57A, 0x1F57B, 0x1F595, 0x1F597, 0x1F5A4, 0x1F5A5, 0x1F5FB,
   0x1F650, 0x1F680, 0x1F6C6, 0x1F6CC, 0x1F6CD, 0x1F6D0, 0x1F6D3, 0x1F6D5, 0x1F6D8, 0x1F6DC,
   0x1F6E0, 0x1F6EB, 0x1F6ED, 0x1F6F4, 0x1F6FD, 0x1F7E0, 0x1F7EC, 0x1F7F0, 0x1F7F1, 0x1F90C,
   0x1F93B, 0x1F93C, 0x1F946, 0x1F947, 0x1FA00, 0x1FA70, 0x1FA7D, 0x1FA80, 0x1FA89, 0x1FA90,
   0x1FABE, 0x1FABF, 0x1FAC6, 0x1FACE, 0x1FADC, 0x1FAE0, 0x1FAE9, 0x1FAF0, 0x1FAF9, 0x20000,
   0x2FFFE, 0x30000, 0x3FFFE]

/-- Pictures that are shown as emoji by default. -/
def emojiBounds : List Nat :=
  [0x231A, 0x231C, 0x23E9, 0x23ED, 0x23F0, 0x23F1, 0x23F3, 0x23F4, 0x25FD, 0x25FF, 0x2614, 0x2616,
   0x2648, 0x2654, 0x267F, 0x2680, 0x2693, 0x2694, 0x26A1, 0x26A2, 0x26AA, 0x26AC, 0x26BD, 0x26BF,
   0x26C4, 0x26C6, 0x26CE, 0x26CF, 0x26D4, 0x26D5, 0x26EA, 0x26EB, 0x26F2, 0x26F4, 0x26F5, 0x26F6,
   0x26FA, 0x26FB, 0x26FD, 0x26FE, 0x2705, 0x2706, 0x270A, 0x270C, 0x2728, 0x2729, 0x274C, 0x274D,
   0x274E, 0x274F, 0x2753, 0x2756, 0x2757, 0x2758, 0x2795, 0x2798, 0x27B0, 0x27B1, 0x27BF, 0x27C0,
   0x2B1B, 0x2B1D, 0x2B50, 0x2B51, 0x2B55, 0x2B56, 0x1F004, 0x1F005, 0x1F0CF, 0x1F0D0, 0x1F18E,
   0x1F18F, 0x1F191, 0x1F19B, 0x1F1E6, 0x1F200, 0x1F201, 0x1F202, 0x1F21A, 0x1F21B, 0x1F22F,
   0x1F230, 0x1F232, 0x1F237, 0x1F238, 0x1F23B, 0x1F250, 0x1F252, 0x1F300, 0x1F321, 0x1F32D,
   0x1F336, 0x1F337, 0x1F37D, 0x1F37E, 0x1F394, 0x1F3A0, 0x1F3CB, 0x1F3CF, 0x1F3D4, 0x1F3E0,
   0x1F3F1, 0x1F3F4, 0x1F3F5, 0x1F3F8, 0x1F43F, 0x1F440, 0x1F441, 0x1F442, 0x1F4FD, 0x1F4FF,
   0x1F53E, 0x1F54B, 0x1F54F, 0x1F550, 0x1F568, 0x1F57A, 0x1F57B, 0x1F595, 0x1F597, 0x1F5A4,
   0x1F5A5, 0x1F5FB, 0x1F650, 0x1F680, 0x1F6C6, 0x1F6CC, 0x1F6CD, 0x1F6D0, 0x1F6D3, 0x1F6D5,
   0x1F6D8, 0x1F6DC, 0x1F6E0, 0x1F6EB, 0x1F6ED, 0x1F6F4, 0x1F6FD, 0x1F7E0, 0x1F7EC, 0x1F7F0,
   0x1F7F1, 0x1F90C, 0x1F93B, 0x1F93C, 0x1F946, 0x1F947, 0x1FA00, 0x1FA70, 0x1FA7D, 0x1FA80,
   0x1FA89, 0x1FA90, 0x1FABE, 0x1FABF, 0x1FAC6, 0x1FACE, 0x1FADC, 0x1FAE0, 0x1FAE9, 0x1FAF0,
   0x1FAF9]

/-- The columns of a single character of the given class. -/
def charColumns (c : Char) (k : ClusterClass) : Nat :=
  match k with
  | .control | .carriageReturn | .lineFeed | .extend | .joiner => 0
  | .flag => 2
  | .picture => if withinBounds emojiBounds c.toNat then 2 else 1
  | _ =>
    if c.toNat = 0x2E3A then 3
    else if c.toNat = 0x2E3B then 4
    else if withinBounds wideBounds c.toNat then 2 else 1

/-- The columns of a cluster after one more character. A variation selector decides how a picture
is shown; flags and Hangul syllables are as wide as their first character. -/
def grownColumns (first : ClusterClass) (columns : Nat) (c : Char) (k : ClusterClass) : Nat :=
  if first = .picture then
    if c.toNat = 0xFE0E then 1 else if c.toNat = 0xFE0F then 2 else columns
  else if first = .flag || first = .hangulL then columns
  else columns + charColumns c k

/-! ## Pieces -/

/-- A piece of a text as a terminal shows it. -/
inductive Piece where
  /-- A single byte and what is done with it. -/
  | byte (b : UInt8) (action : Terminal.Action)
  /-- A cluster that starts with a character outside of ASCII, with the columns that it takes. -/
  | cluster (symbols : List Symbol) (columns : Nat)

/-- The columns of a piece. -/
def Piece.columns : Piece → Nat
  | .byte _ action => if action = .print then 1 else 0
  | .cluster _ columns => columns

/-- The character that a symbol is shown as. -/
def Symbol.shown : Symbol → Char
  | .char c => c
  | .stray _ => '\uFFFD'

/-- A cluster that is being read, its last symbol first. -/
structure OpenCluster where
  state : Cluster
  symbols : List Symbol
  columns : Nat

namespace OpenCluster

/-- A cluster of one symbol. -/
def single (s : Symbol) : OpenCluster :=
  let k := clusterClass s.shown
  ⟨.single k, [s], charColumns s.shown k⟩

/-- The cluster with one more symbol. -/
def push (o : OpenCluster) (s : Symbol) (k : ClusterClass) : OpenCluster :=
  ⟨o.state.push k, s :: o.symbols, grownColumns o.state.first o.columns s.shown k⟩

/-- The finished cluster. -/
def close (o : OpenCluster) : Piece := .cluster o.symbols.reverse o.columns

end OpenCluster

/-- Read bytes one by one. -/
def bytePieces : Terminal.Mode → Text → List Piece × Terminal.Mode
  | mode, [] => ([], mode)
  | mode, b :: rest =>
    let (next, action) := mode.step b
    let (ps, last) := bytePieces next rest
    (.byte b action :: ps, last)

/-- Read a symbol outside of a cluster: it is read byte by byte, unless it starts a cluster. -/
def beginPiece (mode : Terminal.Mode) (s : Symbol) :
    List Piece × Terminal.Mode × Option OpenCluster :=
  match s.bytes with
  | lead :: _ =>
    if (mode.step lead).2 = .character then ([], .ground, some (.single s))
    else
      let (ps, mode) := bytePieces mode s.bytes
      (ps, mode, none)
  | [] => ([], mode, none)

/-- The pieces of symbols, after a cluster that may have begun. -/
def piecesFrom : Terminal.Mode → Option OpenCluster → List Symbol → List Piece
  | _, cluster, [] => cluster.toList.map OpenCluster.close
  | mode, none, s :: rest =>
    let (ps, mode, cluster) := beginPiece mode s
    ps ++ piecesFrom mode cluster rest
  | mode, some o, s :: rest =>
    let k := clusterClass s.shown
    if o.state.continues k then piecesFrom mode (some (o.push s k)) rest
    else
      let (ps, mode, cluster) := beginPiece .ground s
      o.close :: ps ++ piecesFrom mode cluster rest

/-- The pieces of a text. -/
def Text.pieces (t : Text) : List Piece := piecesFrom .ground none (Text.symbols t)

/-- The columns of one line of text. -/
def Text.columns (t : Text) : Nat :=
  (Text.pieces t).foldl (fun n p => n + p.columns) 0

end RoleGraph
