import RoleGraph.Report.Basic
import RoleGraph.Text.Wrapped

/-!
# Terminal tables

A summary printed as three tables with box borders. A cell has one space on each side and is
left-aligned; a column is as wide as its widest cell in terminal columns, and a cell with line
breaks makes its row taller. A cell that is broken further when it is wrapped loses what does not
fit into the height of its row.
-/

namespace RoleGraph

/-- A header row and data rows of the same length. -/
structure Table where
  header : List Text
  rows : List (List Text)

namespace Table

/-- The text of a cell: a tab is four spaces, and a carriage return before a line feed is dropped. -/
def cellText (cell : Text) : Text :=
  Text.replace [0x0D, 0x0A] [0x0A] (Text.replace [0x09] "    " cell)

/-- The lines of a text. -/
def lines (t : Text) : List Text := Text.splitAt 0x0A t

/-- A line between two spaces of padding. -/
def padded (line : Text) : Text := " " ++ line ++ " "

/-- The widest of some lines. -/
def widest (lines : List Text) : Nat := (lines.map Text.columns).foldl max 0

/-- The width of column `i` with its padding. -/
def columnWidth (t : Table) (i : Nat) : Nat :=
  (t.header :: t.rows).foldl (fun w row =>
    max w (widest ((lines (cellText (row.getD i []))).map padded))) 0

/-- The widths of all columns. -/
def widths (t : Table) : List Nat := (List.range t.header.length).map t.columnWidth

/-- A line filled up with spaces to a width. -/
def filled (width : Nat) (line : Text) : Text :=
  line ++ List.replicate (width - line.columns) (0x20 : UInt8)

/-- The printed lines of a cell: it is wrapped to the width of its column and then cut or filled up
to the height of its row. -/
def cellLines (width height : Nat) (cell : Text) : List Text :=
  let ls := (lines (Text.wrapped (width - 2) (cellText cell))).map fun l => filled width (padded l)
  let ls := (List.range height).map fun i => ls.getD i (filled width [])
  ls.map (filled (widest ls))

/-- The printed lines of a row, which is as high as its cells are before they are wrapped. -/
def rowLines (widths : List Nat) (row : List Text) : List Text :=
  let height := (row.map fun cell => (lines (cellText cell)).length).foldl max 1
  let cells := (row.zip widths).map fun (cell, w) => cellLines w height cell
  (List.range height).map fun i =>
    "│" ++ Text.joinWith "│" (cells.map fun ls => ls.getD i []) ++ "│"

/-- A horizontal border with the given left, middle and right corners. -/
def border (widths : List Nat) (left middle right : Text) : Text :=
  left ++ Text.joinWith middle (widths.map fun w => (List.replicate w ("─" : Text)).flatten) ++ right

/-- The printed table without a final line break. All lines are filled up to the widest one. -/
def render (t : Table) : Text :=
  let ws := t.widths
  let ls := [border ws "┌" "┬" "┐"] ++ rowLines ws t.header ++ [border ws "├" "┼" "┤"] ++
    t.rows.flatMap (rowLines ws) ++ [border ws "└" "┴" "┘"]
  let width := widest ls
  Text.joinWith "\n" (ls.map (filled width))

end Table

namespace Summary

/-- The totals of a summary. -/
def totals (s : Summary) : Table :=
  { header := ["playbooks", "task files", "roles", "edges"]
    rows := [[s.playbooks, s.taskFiles, s.roles, s.edges].map Text.ofNat] }

/-- The most called task files. -/
def hotspotTable (s : Summary) : Table :=
  { header := ["task file", "role", "callers", "callees"]
    rows := s.hotspots.map fun h => [h.id, h.role, Text.ofNat h.callers, Text.ofNat h.callees] }

/-- The sizes of the roles. -/
def roleTable (s : Summary) : Table :=
  { header := ["role", "task files"]
    rows := s.roleSizes.map fun r => [r.role, Text.ofNat r.taskFiles] }

/-- A titled table, followed by an empty line. -/
def titled (title : Text) (t : Table) : Text := title ++ "\n" ++ t.render ++ "\n\n"

/-- The pieces in which a summary is printed. -/
def sections (s : Summary) : List Text :=
  [titled "Graph" s.totals, titled "Reuse hotspots" s.hotspotTable, titled "Role complexity" s.roleTable]

/-- The printed summary. -/
def render (s : Summary) : Text := s.sections.flatten

end Summary

end RoleGraph
