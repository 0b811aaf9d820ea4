import RoleGraph.Text.Basic

/-!
# Reading positions

The place in a document up to which it has been read, and the character classes of the format.
Indentation is counted in characters from the start of the line.
-/

namespace RoleGraph.Yaml

/-- A position: line and column from zero, and the number of characters before it. -/
structure Pos where
  line : Nat := 0
  column : Nat := 0
  index : Nat := 0
  deriving DecidableEq, Repr

/-- The position after a character that does not end a line. -/
def Pos.next (p : Pos) : Pos := { p with column := p.column + 1, index := p.index + 1 }

/-- The position `n` characters further on the same line. -/
def Pos.skip (p : Pos) (n : Nat) : Pos := { p with column := p.column + n, index := p.index + n }

/-- The position after a line break of the given width. -/
def Pos.newline (p : Pos) (width : Nat) : Pos := ⟨p.line + 1, 0, p.index + width⟩

/-- The unread characters and where they start. -/
structure Cursor where
  rest : List Char
  pos : Pos

/-- A space or a tab. -/
def isBlank (c : Char) : Bool := c == ' ' || c == '\t'

/-- A character that ends a line. -/
def isBreak (c : Char) : Bool :=
  c == '\n' || c == '\r' || c == '\u0085' || c == '\u2028' || c == '\u2029'

/-- A line break as it is read: the two Unicode separators stay, all others become a line feed. -/
def breakText (c : Char) : Char := if c == '\u2028' || c == '\u2029' then c else '\n'

/-- Whether nothing, a blank or a line break comes next. -/
def blankNext : List Char → Bool
  | [] => true
  | c :: _ => isBlank c || isBreak c

/-- Whether nothing or a line break comes next. -/
def breakNext : List Char → Bool
  | [] => true
  | c :: _ => isBreak c

/-- Letters, digits, underscore and hyphen. -/
def isWord (c : Char) : Bool := c.isAlphanum || c == '_' || c == '-'

/-- Three equal marks at the start of a line, followed by a blank or nothing. -/
def isMark (m : Char) (p : Pos) (cs : List Char) : Bool :=
  p.column == 0 && match cs with
    | a :: b :: c :: rest => a == m && b == m && c == m && blankNext rest
    | _ => false

/-- A mark between documents. -/
def isDocumentMark (p : Pos) (cs : List Char) : Bool := isMark '-' p cs || isMark '.' p cs

/-- Skip the characters of a line. -/
def toLineEnd : List Char → Pos → Cursor
  | [], p => ⟨[], p⟩
  | c :: rest, p => if isBreak c then ⟨c :: rest, p⟩ else toLineEnd rest p.next

/-- Skip blanks. -/
def skipBlanks : List Char → Pos → Cursor
  | [], p => ⟨[], p⟩
  | c :: rest, p => if isBlank c then skipBlanks rest p.next else ⟨c :: rest, p⟩

/-- Skip one line break, if there is one. -/
def skipBreak : List Char → Pos → Cursor
  | '\r' :: '\n' :: rest, p => ⟨rest, p.newline 2⟩
  | c :: rest, p => if isBreak c then ⟨rest, p.newline 1⟩ else ⟨c :: rest, p⟩
  | [], p => ⟨[], p⟩

/-- How many characters a comment is looked for ahead of the place that is read. -/
def commentReach : Nat := 512

/-- Skip blanks and line feeds up to a comment sign within `reach` characters; nothing when there is
none. The line breaks outside ASCII end the search. -/
def toNextComment? : (reach : Nat) → List Char → Pos → Option Cursor
  | 0, _, _ => none
  | _, [], _ => none
  | reach + 1, c :: rest, p =>
    if c == '#' then some ⟨c :: rest, p⟩
    else if isBlank c || (c == '\r' && rest.head? == some '\n') then toNextComment? reach rest p.next
    else if c == '\n' || c == '\r' then toNextComment? reach rest (p.newline 1)
    else none

end RoleGraph.Yaml
