import RoleGraph.Yaml.Cursor

/-!
# Scalars in the text of a document

The three ways to write a scalar. Plain and quoted scalars may span lines: a single line break
becomes a space, and of several breaks the first is dropped. Block scalars keep their lines
(literal) or fold them (folded), and an indicator says what happens to the breaks at the end.
-/

namespace RoleGraph.Yaml

/-- The text read so far and the white space that has not been decided on. -/
structure Folding where
  /-- Characters read so far, the last one first. -/
  text : List Char := []
  /-- Blanks since the last character, the last one first. -/
  blanks : List Char := []
  /-- The first line break since the last character; empty when it was escaped. -/
  firstBreak : Option (List Char) := none
  /-- Further line breaks, the last one first. -/
  breaks : List Char := []

namespace Folding

/-- Add a character to the text. -/
def push (f : Folding) (c : Char) : Folding := { f with text := c :: f.text }

/-- Note a blank: blanks after a line break are indentation and do not count. -/
def blank (f : Folding) (c : Char) : Folding :=
  if f.firstBreak.isSome then f else { f with blanks := c :: f.blanks }

/-- Note a line break: blanks before it do not count. -/
def newline (f : Folding) (c : Char) : Folding :=
  if f.firstBreak.isSome then { f with breaks := breakText c :: f.breaks }
  else { f with blanks := [], firstBreak := some [breakText c] }

/-- Decide on the white space before the next character. -/
def join (f : Folding) : Folding :=
  match f.firstBreak with
  | none => { text := f.blanks ++ f.text }
  | some first =>
    if first = ['\n'] then
      { text := if f.breaks.isEmpty then ' ' :: f.text else f.breaks ++ f.text }
    else { text := f.breaks ++ (first ++ f.text) }

/-- The text without undecided white space. -/
def result (f : Folding) : List Char := f.text.reverse

end Folding

/-- What the reader of a scalar passed last. -/
inductive Passed where
  | opening
  | text
  | space
  deriving DecidableEq

/-- Characters at which a plain scalar ends. -/
def endsPlain (inFlow : Bool) (c : Char) (rest : List Char) : Bool :=
  (c == ':' && blankNext rest) ||
    (inFlow && (c == ',' || c == '?' || c == '[' || c == ']' || c == '{' || c == '}'))

/-- Read a plain scalar; its continuation lines are indented by at least `indent`. -/
def plainFrom (inFlow : Bool) (indent : Nat) :
    Passed → List Char → Pos → Folding → Option (Folding × Cursor)
  | _, [], p, f => some (f, ⟨[], p⟩)
  | _, '\r' :: '\n' :: rest, p, f =>
    plainFrom inFlow indent .space rest (p.newline 2) (f.newline '\n')
  | passed, c :: rest, p, f =>
    if isBreak c then plainFrom inFlow indent .space rest (p.newline 1) (f.newline c)
    else if isBlank c then
      if c == '\t' && f.firstBreak.isSome && p.column < indent then none
      else plainFrom inFlow indent .space rest p.next (f.blank c)
    else if passed = .space && !inFlow && p.column < indent then some (f, ⟨c :: rest, p⟩)
    else if passed ≠ .text && (isDocumentMark p (c :: rest) || c == '#') then
      some (f, ⟨c :: rest, p⟩)
    else if endsPlain inFlow c rest then some (f, ⟨c :: rest, p⟩)
    else plainFrom inFlow indent .text rest p.next (f.join.push c)

/-- Read a single-quoted scalar after its opening quote. -/
def singleQuotedFrom : Passed → List Char → Pos → Folding → Option (Folding × Cursor)
  | _, [], _, _ => none
  | _, '\r' :: '\n' :: rest, p, f => singleQuotedFrom .space rest (p.newline 2) (f.newline '\n')
  | passed, c :: rest, p, f =>
    if isBreak c then singleQuotedFrom .space rest (p.newline 1) (f.newline c)
    else if isBlank c then singleQuotedFrom .space rest p.next (f.blank c)
    else if passed = .space && isDocumentMark p (c :: rest) then none
    else if c == '\'' then
      match rest with
      | '\'' :: more => singleQuotedFrom .text more (p.skip 2) (f.join.push '\'')
      | _ => some (f.join, ⟨rest, p.next⟩)
    else singleQuotedFrom .text rest p.next (f.join.push c)

/-- The value of a hexadecimal digit. -/
def hexValue? (c : Char) : Option Nat :=
  if c.isDigit then some (c.toNat - 48)
  else if 'a' ≤ c && c ≤ 'f' then some (c.toNat - 87)
  else if 'A' ≤ c && c ≤ 'F' then some (c.toNat - 55)
  else none

/-- The number that hexadecimal digits stand for. -/
def hexNumber? (cs : List Char) : Option Nat :=
  cs.foldl (fun acc c => acc.bind fun n => (hexValue? c).map (n * 16 + ·)) (some 0)

/-- The character with a code point, unless it is a surrogate or too large. -/
def charOf? (n : Nat) : Option Char :=
  if (0xD800 ≤ n && n ≤ 0xDFFF) || 0x10FFFF < n then none else some (Char.ofNat n)

/-- The character of a one-letter escape. -/
def simpleEscape? : Char → Option Char
  | '0' => some '\x00'
  | 'a' => some '\x07'
  | 'b' => some '\x08'
  | 't' | '\t' => some '\t'
  | 'n' => some '\n'
  | 'v' => some '\x0b'
  | 'f' => some '\x0c'
  | 'r' => some '\r'
  | 'e' => some '\x1b'
  | ' ' => some ' '
  | '"' => some '"'
  | '\'' => some '\''
  | '\\' => some '\\'
  | 'N' => some '\u0085'
  | '_' => some '\u00a0'
  | 'L' => some '\u2028'
  | 'P' => some '\u2029'
  | _ => none

/-- The number of hexadecimal digits that an escape letter announces. -/
def escapeDigits : Char → Nat
  | 'x' => 2
  | 'u' => 4
  | 'U' => 8
  | _ => 0

/-- Read a double-quoted scalar after its opening quote. `skip` counts the characters of an escape
that have been decoded already. -/
def doubleQuotedFrom : Nat → Passed → List Char → Pos → Folding → Option (Folding × Cursor)
  | _, _, [], _, _ => none
  | skip + 1, passed, _ :: rest, p, f => doubleQuotedFrom skip passed rest p.next f
  | 0, _, '\r' :: '\n' :: rest, p, f => doubleQuotedFrom 0 .space rest (p.newline 2) (f.newline '\n')
  | 0, passed, c :: rest, p, f =>
    if isBreak c then doubleQuotedFrom 0 .space rest (p.newline 1) (f.newline c)
    else if isBlank c then doubleQuotedFrom 0 .space rest p.next (f.blank c)
    else if passed = .space && isDocumentMark p (c :: rest) then none
    else if c == '"' then some (f.join, ⟨rest, p.next⟩)
    else if c == '\\' then
      match rest with
      | [] => none
      | '\r' :: '\n' :: more =>
        doubleQuotedFrom 0 .space more (p.next.newline 2) { f.join with firstBreak := some [] }
      | e :: more =>
        if isBreak e then
          doubleQuotedFrom 0 .space more (p.next.newline 1) { f.join with firstBreak := some [] }
        else match simpleEscape? e with
          | some x => doubleQuotedFrom 0 .text more (p.skip 2) (f.join.push x)
          | none =>
            let digits := more.take (escapeDigits e)
            if escapeDigits e = 0 || digits.length < escapeDigits e then none
            else match (hexNumber? digits).bind charOf? with
              | some x => doubleQuotedFrom (escapeDigits e) .text more (p.skip 2) (f.join.push x)
              | none => none
    else doubleQuotedFrom 0 .text rest p.next (f.join.push c)

/-- What happens to the line breaks at the end of a block scalar. -/
inductive Chomping where
  /-- One break stays. -/
  | clip
  /-- No break stays. -/
  | strip
  /-- All breaks stay. -/
  | keep
  deriving DecidableEq

/-- Read empty lines and indentation before the first line of a block scalar. Returns the breaks,
the last one first, and the widest indentation. A given `indent` of zero means it is still unknown. -/
def blockMargin (indent : Nat) :
    List Char → Pos → Nat → List Char → Option (List Char × Nat × Cursor)
  | [], p, widest, breaks => some (breaks, max widest p.column, ⟨[], p⟩)
  | '\r' :: '\n' :: rest, p, widest, breaks =>
    blockMargin indent rest (p.newline 2) (max widest p.column) ('\n' :: breaks)
  | c :: rest, p, widest, breaks =>
    if c == ' ' && (indent == 0 || p.column < indent) then
      blockMargin indent rest p.next widest breaks
    else if c == '\t' && (indent == 0 || p.column < indent) then none
    else if isBreak c then
      blockMargin indent rest (p.newline 1) (max widest p.column) (breakText c :: breaks)
    else some (breaks, max widest p.column, ⟨c :: rest, p⟩)

/-- A block scalar while its lines are read. -/
structure BlockText where
  /-- Characters read so far, the last one first. -/
  text : List Char := []
  /-- The break after the last line. -/
  lineBreak : List Char := []
  /-- The breaks of empty lines after it, the last one first. -/
  emptyLines : List Char := []
  /-- The last line starts with a blank. -/
  indented : Bool := false

/-- Begin a line with the given first character. -/
def BlockText.beginLine (literal : Bool) (b : BlockText) (c : Char) : BlockText :=
  let folds := !literal && !b.indented && !isBlank c && b.lineBreak == ['\n']
  let text :=
    if folds then if b.emptyLines.isEmpty then ' ' :: b.text else b.text
    else b.lineBreak ++ b.text
  { text := c :: (b.emptyLines ++ text), indented := isBlank c }

/-- Read the lines of a block scalar indented by `indent`. -/
def blockLines (literal : Bool) (indent : Nat) :
    Bool → List Char → Pos → BlockText → Option (BlockText × Cursor)
  | _, [], p, b => some (b, ⟨[], p⟩)
  | true, '\r' :: '\n' :: rest, p, b =>
    blockLines literal indent false rest (p.newline 2) { b with lineBreak := ['\n'] }
  | false, '\r' :: '\n' :: rest, p, b =>
    blockLines literal indent false rest (p.newline 2) { b with emptyLines := '\n' :: b.emptyLines }
  | true, c :: rest, p, b =>
    if isBreak c then
      blockLines literal indent false rest (p.newline 1) { b with lineBreak := [breakText c] }
    else blockLines literal indent true rest p.next { b with text := c :: b.text }
  | false, c :: rest, p, b =>
    if c == ' ' && p.column < indent then blockLines literal indent false rest p.next b
    else if c == '\t' && p.column < indent then none
    else if isBreak c then
      blockLines literal indent false rest (p.newline 1)
        { b with emptyLines := breakText c :: b.emptyLines }
    else if p.column = indent then
      blockLines literal indent true rest p.next (b.beginLine literal c)
    else some (b, ⟨c :: rest, p⟩)

/-- The text of a finished block scalar. -/
def BlockText.result (b : BlockText) : Chomping → List Char
  | .strip => b.text.reverse
  | .clip => (b.lineBreak ++ b.text).reverse
  | .keep => (b.emptyLines ++ (b.lineBreak ++ b.text)).reverse

/-- The chomping that an indicator asks for. -/
def chomping? : Char → Option Chomping
  | '+' => some .keep
  | '-' => some .strip
  | _ => none

/-- The indicators after `|` or `>`: chomping and an indentation digit, in either order. -/
def blockHeader : List Char → Pos → Option (Chomping × Nat × Cursor)
  | [], p => some (.clip, 0, ⟨[], p⟩)
  | c :: rest, p =>
    match chomping? c with
    | some ch =>
      match rest with
      | d :: more =>
        if d == '0' then none
        else if d.isDigit then some (ch, d.toNat - 48, ⟨more, p.skip 2⟩)
        else some (ch, 0, ⟨rest, p.next⟩)
      | [] => some (ch, 0, ⟨[], p.next⟩)
    | none =>
      if c == '0' then none
      else if c.isDigit then
        match rest with
        | d :: more =>
          match chomping? d with
          | some ch => some (ch, c.toNat - 48, ⟨more, p.skip 2⟩)
          | none => some (.clip, c.toNat - 48, ⟨rest, p.next⟩)
        | [] => some (.clip, c.toNat - 48, ⟨[], p.next⟩)
      else some (.clip, 0, ⟨c :: rest, p⟩)

/-- Read a block scalar after its `|` or `>`, inside a block of the given indentation. -/
def blockScalar (literal : Bool) (outer : Int) (cs : List Char) (p : Pos) :
    Option (List Char × Cursor) := do
  let (chomping, digit, c) ← blockHeader cs p
  let c := skipBlanks c.rest c.pos
  let c := if c.rest.head? == some '#' then toLineEnd c.rest c.pos else c
  if !breakNext c.rest then none
  else
    let c := skipBreak c.rest c.pos
    let given := if digit = 0 then 0 else (max outer 0).toNat + digit
    let (breaks, widest, c) ← blockMargin given c.rest c.pos 0 []
    let indent := if given = 0 then max widest (max (outer + 1) 1).toNat else given
    let (b, c) ← blockLines literal indent false c.rest c.pos { emptyLines := breaks }
    some (b.result chomping, c)

end RoleGraph.Yaml
