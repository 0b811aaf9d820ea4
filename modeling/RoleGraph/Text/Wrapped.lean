import RoleGraph.Text.Blank
import RoleGraph.Text.Columns

/-!
# Wrapped texts

A text is broken into lines of limited width. A line is broken at blanks, which vanish there, or
after a hyphen, and a word that is wider than a line is broken anywhere. Blanks count by their bytes
and control characters count as one column each, so a line may be broken although it would fit.
-/

namespace RoleGraph

/-- A text that is being wrapped. All parts of it are kept with their last byte first. -/
structure Wrapping where
  /-- The lines so far. -/
  out : Text := []
  /-- The blanks after them. -/
  blanks : Text := []
  /-- The word after the blanks. -/
  word : Text := []
  /-- The width of the last line. -/
  width : Nat := 0
  wordWidth : Nat := 0

namespace Wrapping

/-- Put the blanks behind the line. -/
def putBlanks (w : Wrapping) : Wrapping :=
  { w with out := w.blanks ++ w.out, width := w.width + w.blanks.length, blanks := [] }

/-- Put the blanks and the word behind the line. -/
def putWord (w : Wrapping) : Wrapping :=
  if w.word.isEmpty then w
  else
    let w := w.putBlanks
    { w with out := w.word ++ w.out, width := w.width + w.wordWidth, word := [], wordWidth := 0 }

/-- Start a line; the blanks vanish. -/
def breakLine (w : Wrapping) : Wrapping :=
  { w with out := 0x0A :: w.out, width := 0, blanks := [] }

/-- Start a line if the blanks and the word do not fit. -/
def breakIfFull (limit : Nat) (w : Wrapping) : Wrapping :=
  if limit < w.width + w.wordWidth + w.blanks.length then w.breakLine else w

/-- Add to the word. -/
def extend (w : Wrapping) (t : Text) (columns : Nat) : Wrapping :=
  { w with word := t.reverse ++ w.word, wordWidth := w.wordWidth + columns }

/-- Finish a line: blanks at its end are kept if they fit. -/
def finishLine (limit : Nat) (w : Wrapping) : Wrapping :=
  let w :=
    if w.wordWidth = 0 then
      if limit < w.width + w.blanks.length then { w with width := 0, blanks := [] }
      else { w with out := w.blanks ++ w.out, blanks := [] }
    else w
  w.putWord

/-- Add a blank. -/
def pushBlank (w : Wrapping) (t : Text) : Wrapping :=
  let w := w.putWord
  { w with blanks := t.reverse ++ w.blanks }

/-- Add a hyphen, after which a line may be broken. -/
def pushHyphen (limit : Nat) (w : Wrapping) : Wrapping :=
  let w := w.putBlanks
  if limit ≤ w.width + w.wordWidth then w.extend [0x2D] 1
  else
    let w := w.putWord
    { w with out := 0x2D :: w.out, width := w.width + 1 }

/-- Add a byte that is shown. -/
def pushByte (limit : Nat) (w : Wrapping) (b : UInt8) : Wrapping :=
  if b = 0x0A then (w.finishLine limit).breakLine
  else if isBlankChar (Char.ofNat b.toNat) then w.pushBlank [b]
  else if b = 0x2D then w.pushHyphen limit
  else
    let w := w.extend [b] 1
    (if w.wordWidth = limit then w.putWord else w).breakIfFull limit

/-- Add a cluster. A blank loses what is attached to it. -/
def pushCluster (limit : Nat) (w : Wrapping) (symbols : List Symbol) (columns : Nat) : Wrapping :=
  match symbols with
  | [] => w
  | s :: _ =>
    if s.isBlank && s != .char '\u00A0' then w.pushBlank s.bytes
    else
      let w := if limit < w.wordWidth + columns then w.putWord else w
      (w.extend (Text.ofSymbols symbols) columns).breakIfFull limit

/-- Add a piece of a text. -/
def push (limit : Nat) (w : Wrapping) : Piece → Wrapping
  | .byte b action =>
    if action = .print ∨ action = .execute then w.pushByte limit b else w.extend [b] 0
  | .cluster symbols columns => w.pushCluster limit symbols columns

end Wrapping

/-- The text wrapped to a width; a width of zero is no limit. -/
def Text.wrapped (limit : Nat) (t : Text) : Text :=
  if limit = 0 then t
  else (((Text.pieces t).foldl (Wrapping.push limit) {}).finishLine limit).out.reverse

end RoleGraph
