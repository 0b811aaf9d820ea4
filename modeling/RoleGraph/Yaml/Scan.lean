import RoleGraph.Yaml.Token
import RoleGraph.Yaml.Scalars
import RoleGraph.Yaml.Source

/-!
# From characters to tokens

Indentation opens and closes block collections, so the reader keeps a stack of indentation
columns. A mapping key is recognised only when its colon is seen: every token that could start a
key is remembered, one per flow level, and the key token is put in front of it afterwards. A key
must fit on one line and within 1024 characters.

Tokens are read on demand. A token is handed out once two more have been read and it can no longer
turn out to start a key, so what lies further ahead in the text does not matter to it.
-/

namespace RoleGraph.Yaml

/-- A token that turns out to start a mapping key if a colon follows. -/
structure PendingKey where
  /-- It stands where only a key can stand. -/
  required : Bool
  pos : Pos

/-- The key of a flow level. -/
structure KeySlot where
  /-- The number of tokens before the one that was remembered last; for a new level, before the
  bracket that opens it. -/
  token : Nat
  pending : Option PendingKey := none

/-- The state of the reader. -/
structure Scanner where
  cursor : Cursor
  /-- The text breaks off where the characters end. -/
  torn : Bool := false
  /-- A bound on the number of characters. -/
  size : Nat
  /-- The tokens that have been read and not handed out. -/
  queue : Array Token := #[]
  /-- The number of tokens handed out. -/
  taken : Nat := 0
  flow : Nat := 0
  indent : Int := -1
  indents : List Int := []
  keyAllowed : Bool := true
  /-- Only blanks stand between the last line break and the cursor. -/
  freshLine : Bool := false
  /-- The keys of the current flow level and of those around it. -/
  keys : List KeySlot := [⟨0, none⟩]
  /-- The numbers of the tokens that may start a key, each with its flow level. -/
  starts : List (Nat × Nat) := []

/-- The deepest nesting that can be read. -/
def depthLimit : Nat := 10000

namespace Scanner

/-- The current column. -/
def column (s : Scanner) : Nat := s.cursor.pos.column

/-- The number of tokens read so far. -/
def read (s : Scanner) : Nat := s.taken + s.queue.size

/-- Append a token that starts at the current line. -/
def emit (s : Scanner) (kind : TokenKind) : Scanner :=
  { s with queue := s.queue.push ⟨kind, s.cursor.pos.line⟩ }

/-- Put a token in front of the one with the given number; at the end when that one has been handed
out already. -/
def insert (s : Scanner) (number : Nat) (t : Token) : Scanner :=
  if number < s.taken then { s with queue := s.queue.push t }
  else { s with queue := s.queue.insertIdxIfInBounds (number - s.taken) t }

/-- Continue at another place. -/
def moveTo (s : Scanner) (c : Cursor) : Scanner := { s with cursor := c }

/-- Pass over characters of the current line. -/
def advance (s : Scanner) (n : Nat) : Scanner :=
  { s with cursor := ⟨s.cursor.rest.drop n, s.cursor.pos.skip n⟩ }

/-- Allow or forbid a key at the next token. -/
def allowKey (s : Scanner) (b : Bool) : Scanner := { s with keyAllowed := b }

/-- Require that `n` characters can be read, or that the text really ends before. -/
def require (s : Scanner) (n : Nat) : Option Scanner :=
  if s.torn && (s.cursor.rest.drop (n - 1)).isEmpty then none else some s

/-- Close every open collection with an indentation in the list that is deeper than `column`. -/
def unrollTo (column : Int) (s : Scanner) : List Int → Scanner
  | [] => s
  | outer :: indents =>
    if column < s.indent then
      unrollTo column { s.emit .blockEnd with indent := outer, indents := indents } indents
    else s

/-- Close the block collections that the given column ends. -/
def unroll (s : Scanner) (column : Int) : Scanner :=
  if 0 < s.flow then s else unrollTo column s s.indents

/-- Open a block collection at a column, with its start token in front of the one with the given
number. -/
def roll (s : Scanner) (column number : Nat) (kind : TokenKind) (line : Nat) : Option Scanner :=
  if 0 < s.flow then some s
  else if s.indent < column then
    if depthLimit ≤ s.indents.length then none
    else some ({ s with indents := s.indent :: s.indents, indent := column }.insert number ⟨kind, line⟩)
  else some s

/-- Forget that a token may start a key. -/
def forget (s : Scanner) (number : Nat) : Scanner :=
  { s with starts := s.starts.filter (·.1 != number) }

/-- Forget the pending key of this level; a required one must not be lost. -/
def dropKey (s : Scanner) : Option Scanner :=
  match s.keys with
  | ⟨number, some k⟩ :: outer =>
    if k.required then none else some ({ s with keys := ⟨number, none⟩ :: outer }.forget number)
  | _ => some s

/-- Remember that the next token may start a key. -/
def saveKey (s : Scanner) : Option Scanner :=
  if s.keyAllowed then do
    let required := s.flow == 0 && s.indent == s.column
    let s ← s.dropKey
    some { s with
      keys := ⟨s.read, some ⟨required, s.cursor.pos⟩⟩ :: s.keys.tail
      starts := (s.read, s.flow) :: s.starts }
  else some s

/-- The start of a flow collection. -/
def flowStart (s : Scanner) (kind : TokenKind) : Option Scanner := do
  let s ← s.saveKey
  if depthLimit ≤ s.flow then none
  let s := { s with keys := ⟨s.read, none⟩ :: s.keys, flow := s.flow + 1, keyAllowed := true }
  some (s.emit kind |>.advance 1)

/-- Leave a flow level, and forget the token that it remembers. -/
def leaveFlow (s : Scanner) : Scanner :=
  match s.keys with
  | slot :: outer =>
    if 0 < s.flow then { s with keys := outer, flow := s.flow - 1 }.forget slot.token else s
  | [] => s

/-- The end of a flow collection. -/
def flowStop (s : Scanner) (kind : TokenKind) : Option Scanner := do
  let s ← s.dropKey
  some ((s.leaveFlow.allowKey false).emit kind |>.advance 1)

/-- A comma inside a flow collection. -/
def flowComma (s : Scanner) : Option Scanner := do
  let s ← s.dropKey
  some ((s.allowKey true).emit .flowEntry |>.advance 1)

/-- The dash of a block sequence. -/
def dash (s : Scanner) : Option Scanner := do
  if s.flow == 0 && !s.keyAllowed then none
  let s ← s.roll s.column s.read .blockSequenceStart s.cursor.pos.line
  let s ← s.dropKey
  some ((s.allowKey true).emit .blockEntry |>.advance 1)

/-- The question mark of an explicit key. -/
def questionMark (s : Scanner) : Option Scanner := do
  if s.flow == 0 && !s.keyAllowed then none
  let s ← s.roll s.column s.read .blockMappingStart s.cursor.pos.line
  let s ← s.dropKey
  some ((s.allowKey (s.flow == 0)).emit .key |>.advance 1)

/-- Whether a pending key can still be one; `none` when a required key is lost. -/
def keyIsLive (s : Scanner) (k : PendingKey) : Option Bool :=
  if k.pos.line < s.cursor.pos.line || k.pos.index + 1024 < s.cursor.pos.index then
    if k.required then none else some false
  else some true

/-- The pending key of this level that a colon would complete. -/
def liveKey (s : Scanner) : Option (Option (Nat × PendingKey)) :=
  match s.keys with
  | ⟨number, some k⟩ :: _ => (s.keyIsLive k).map fun b => if b then some (number, k) else none
  | _ => some none

/-- The colon between a key and its value. -/
def colon (s : Scanner) : Option Scanner := do
  match ← s.liveKey with
  | some (number, k) =>
    let s := s.insert number ⟨.key, k.pos.line⟩
    let s ← s.roll k.pos.column number .blockMappingStart k.pos.line
    let s := { s with keys := ⟨number, none⟩ :: s.keys.tail }.forget number
    some ((s.allowKey false).emit .value |>.advance 1)
  | none =>
    if s.flow == 0 && !s.keyAllowed then none
    let s ← s.roll s.column s.read .blockMappingStart s.cursor.pos.line
    some ((s.allowKey (s.flow == 0)).emit .value |>.advance 1)

/-- Whether a character may follow the name of an anchor. -/
def endsAnchor : List Char → Bool
  | c :: rest => blankNext (c :: rest) || "?:,]\x7d%@\x60".toList.contains c
  | [] => true

/-- An anchor or an alias. -/
def anchor (s : Scanner) (kind : List Char → TokenKind) : Option Scanner := do
  let s ← s.saveKey
  let name := (s.cursor.rest.drop 1).takeWhile isWord
  let next ← ((s.allowKey false).emit (kind name) |>.advance (1 + name.length)).require 1
  if name.isEmpty || !endsAnchor next.cursor.rest then none else some next

/-- Characters of a tag besides letters, digits, underscore and hyphen. -/
def isTagChar (c : Char) : Bool := isWord c || ";/?:@&=+$,.!~*'()[]%".toList.contains c

/-- The bytes that the characters of a tag stand for. A percent escape is a byte, and several of
them are the bytes of one character: `due` counts those that must still follow. -/
def unescapeTag : (due : Nat) → List Char → Option Text
  | 0, [] => some []
  | due, '%' :: a :: b :: rest => do
    let x ← hexValue? a
    let y ← hexValue? b
    let octet := (x * 16 + y).toUInt8
    let width := utf8Width octet
    if due = 0 && width = 0 then none
    if 0 < due && !Text.isTail octet then none
    let more ← unescapeTag (if due = 0 then width - 1 else due - 1) rest
    some (octet :: more)
  | 0, c :: rest => do
    if c == '%' then none
    let more ← unescapeTag 0 rest
    some (Text.encodeChar c ++ more)
  | _ + 1, _ => none

/-- The decoded text of the longest run of tag characters, and the number of characters in it. -/
def tagText (cs : List Char) : Option (Text × Nat) := do
  let run := cs.takeWhile isTagChar
  some (← unescapeTag 0 run, run.length)

/-- A tag. -/
def tag (s : Scanner) : Option Scanner := do
  let s ← s.saveKey
  let cs := s.cursor.rest.drop 1
  let (handle, suffix, length) ← match cs with
    | '<' :: inner => do
      let (text, n) ← tagText inner
      if n = 0 || (inner.drop n).head? != some '>' then none else some ([], text, n + 3)
    | _ => do
      let word := cs.takeWhile isWord
      if (cs.drop word.length).head? == some '!' then do
        let (text, n) ← tagText (cs.drop (word.length + 1))
        if n = 0 then none
        else some (Text.ofChars ('!' :: word ++ ['!']), text, word.length + 2 + n)
      else do
        let (text, n) ← tagText cs
        if n = 0 then some ([], Text.ofString "!", 1) else some (Text.ofString "!", text, n + 1)
  let next ← ((s.allowKey false).emit (.tag handle suffix) |>.advance length).require 1
  if blankNext next.cursor.rest then some next else none

/-- A block scalar; it always ends after a line break. -/
def block (s : Scanner) (literal : Bool) : Option Scanner := do
  let s ← s.dropKey
  let (text, c) ← blockScalar literal s.indent (s.cursor.rest.drop 1) s.cursor.pos.next
  { ((s.allowKey true).emit (.scalar text false)).moveTo c with freshLine := true }.require 1

/-- A quoted scalar. -/
def quoted (s : Scanner) (single : Bool) : Option Scanner := do
  let s ← s.saveKey
  let rest := s.cursor.rest.drop 1
  let p := s.cursor.pos.next
  let (f, c) ← if single then singleQuotedFrom .opening rest p {} else doubleQuotedFrom 0 .opening rest p {}
  some (((s.allowKey false).emit (.scalar f.result false)).moveTo c)

/-- A plain scalar; line breaks after it allow a key again. -/
def plain (s : Scanner) : Option Scanner := do
  let s ← s.saveKey
  let (f, c) ← plainFrom (0 < s.flow) (s.indent + 1).toNat .opening s.cursor.rest s.cursor.pos {}
  let broken := f.firstBreak.isSome
  { ((s.allowKey broken).emit (.scalar f.result true)).moveTo c with freshLine := broken }.require 1

/-- The decimal number at the start of a directive's version, of at most two digits. -/
def versionNumber (cs : List Char) : Option (Nat × List Char) :=
  let ds := cs.takeWhile Char.isDigit
  if ds.isEmpty || 2 < ds.length then none
  else some (ds.foldl (fun n c => n * 10 + (c.toNat - 48)) 0, cs.drop ds.length)

/-- The handle in a tag directive. -/
def directiveHandle (cs : List Char) : Option (Text × List Char) :=
  match cs with
  | '!' :: rest =>
    let word := rest.takeWhile isWord
    match rest.drop word.length with
    | '!' :: more => some (Text.ofChars ('!' :: word ++ ['!']), more)
    | more => if word.isEmpty then some (Text.ofString "!", more) else none
  | _ => none

/-- Skip blanks without counting them. -/
def dropBlanks (cs : List Char) : List Char := cs.dropWhile isBlank

/-- The content of a directive after its percent sign, and what follows. -/
def directiveBody (cs : List Char) : Option (TokenKind × List Char) := do
  let name := cs.takeWhile isWord
  let rest := cs.drop name.length
  if name.isEmpty || !blankNext rest then none
  else if name = "YAML".toList then
    let (major, rest) ← versionNumber (dropBlanks rest)
    match rest with
    | '.' :: rest =>
      let (minor, rest) ← versionNumber rest
      some (.version major minor, rest)
    | _ => none
  else if name = "TAG".toList then
    let (handle, rest) ← directiveHandle (dropBlanks rest)
    if rest.head?.any isBlank then
      let rest := dropBlanks rest
      let (text, n) ← tagText rest
      if n = 0 || !blankNext (rest.drop n) then none
      else some (.tagHandle handle text, rest.drop n)
    else none
  else none

/-- A directive line. -/
def directive (s : Scanner) : Option Scanner := do
  let s ← (s.unroll (-1)).dropKey
  let (kind, rest) ← directiveBody (s.cursor.rest.drop 1)
  let rest := dropBlanks rest
  let used := s.cursor.rest.length - rest.length
  let next ← ((s.allowKey false).emit kind |>.advance used).require 1
  let c := if rest.head? == some '#' then toLineEnd rest next.cursor.pos else next.cursor
  if breakNext c.rest then some (next.moveTo (skipBreak c.rest c.pos)) else none

/-- A mark between documents. -/
def documentMark (s : Scanner) (kind : TokenKind) : Option Scanner := do
  let s ← (s.unroll (-1)).dropKey
  some ((s.allowKey false).emit kind |>.advance 3)

/-- The end of the input, which counts as the end of its last line. -/
def finish (s : Scanner) : Option Scanner := do
  let s := if s.column = 0 then s else s.moveTo ⟨s.cursor.rest, s.cursor.pos.newline 0⟩
  let s ← (s.unroll (-1)).dropKey
  some ((s.allowKey false).emit .streamEnd)

/-- Pass over consecutive comment lines, up to the end of the last one. -/
def skipComments : Nat → Cursor → Cursor
  | 0, c => c
  | fuel + 1, c =>
    let c := toLineEnd c.rest c.pos
    match toNextComment? commentReach c.rest c.pos with
    | some next => skipComments fuel next
    | none => c

/-- Pass over blanks, comments and line breaks up to the next token. -/
def toToken : Nat → Scanner → Scanner
  | 0, s => s
  | fuel + 1, s =>
    match s.cursor.rest with
    | [] => s
    | c :: _ =>
      if c == '\uFEFF' && s.column == 0 then toToken fuel (s.advance 1)
      else if c == ' ' || (c == '\t' && (0 < s.flow || !s.keyAllowed)) then toToken fuel (s.advance 1)
      else if c == '#' then
        let after := skipComments s.size s.cursor
        toToken fuel (s.moveTo after)
      else if isBreak c then
        let s := s.moveTo (skipBreak s.cursor.rest s.cursor.pos)
        toToken fuel (if s.flow == 0 then s.allowKey true else s)
      else s

/-- Pass over a comment on the same line. -/
def skipLineComment (s : Scanner) : Scanner :=
  let c := skipBlanks s.cursor.rest s.cursor.pos
  if c.rest.head? == some '#' && c.pos.index < s.cursor.pos.index + commentReach then
    s.moveTo (toLineEnd c.rest c.pos)
  else s

/-- Characters that cannot start a plain scalar on their own. -/
def isIndicator (c : Char) : Bool := "-?:,[]\x7b\x7d#&*!|>\x27\"%@\x60".toList.contains c

/-- Read the token at a character other than a document mark or a directive. -/
def token (s : Scanner) (c : Char) (rest : List Char) : Option Scanner :=
  let inFlow := 0 < s.flow
  if c == '[' then s.flowStart .flowSequenceStart
  else if c == '{' then s.flowStart .flowMappingStart
  else if c == ']' then s.flowStop .flowSequenceEnd
  else if c == '}' then s.flowStop .flowMappingEnd
  else if c == ',' then s.flowComma
  else if c == '-' && blankNext rest then s.dash
  else if c == '?' && (inFlow || blankNext rest) then s.questionMark
  else if c == ':' && (inFlow || blankNext rest) then s.colon
  else if c == '*' then s.anchor .alias
  else if c == '&' then s.anchor .anchor
  else if c == '!' then s.tag
  else if c == '|' && !inFlow then s.block true
  else if c == '>' && !inFlow then s.block false
  else if c == '\'' then s.quoted true
  else if c == '"' then s.quoted false
  else if !(isBlank c || isIndicator c) || c == '-' || (!inFlow && (c == '?' || c == ':')) then s.plain
  else none

/-- Read one token and the block ends before it. Every token but the last one takes a character. -/
def step (s : Scanner) : Option Scanner := do
  let s ← (s.toToken (s.size + 1)).require 4
  let s := { s.unroll s.column with freshLine := false }
  match s.cursor.rest with
  | [] => s.finish
  | c :: rest =>
    if c == '%' && s.column == 0 then s.directive
    else if isMark '-' s.cursor.pos (c :: rest) then s.documentMark .documentStart
    else if isMark '.' s.cursor.pos (c :: rest) then s.documentMark .documentEnd
    else
      let next ← s.token c rest
      if next.freshLine || (c == '-' && blankNext rest) then some next
      else some next.skipLineComment

/-- Whether the next token to be handed out can still turn out to start a key. -/
def nextIsOpen (s : Scanner) : Option Bool :=
  match s.starts.lookup s.taken with
  | none => some false
  | some level =>
    if s.flow < level then some false
    else match s.keys[s.flow - level]? with
      | some ⟨_, some k⟩ => s.keyIsLive k
      | _ => some false

/-- Read ahead until the next token can be handed out. -/
def fill : Nat → Scanner → Option Scanner
  | 0, _ => none
  | fuel + 1, s => do
    let ready ← if s.queue.size < 3 then some false else s.nextIsOpen.map (!·)
    if ready then some s else fill fuel (← s.step)

/-- Hand out tokens until the text ends or cannot be read; a token that cannot be read ends the
list as a fault. -/
def run : Nat → Scanner → Array Token → Array Token
  | 0, _, ts => ts.push ⟨.fault, 0⟩
  | fuel + 1, s, ts =>
    match s.fill (s.size + 5) with
    | none => ts.push ⟨.fault, 0⟩
    | some s =>
      match s.queue[0]? with
      | none => ts.push ⟨.fault, 0⟩
      | some t =>
        if t.kind = .streamEnd then ts.push t
        else
          run fuel { s with queue := s.queue.eraseIdxIfInBounds 0, taken := s.taken + 1 } (ts.push t)

end Scanner

/-- The tokens of a document. Every character gives at most a token of its own, a key with the start
of a mapping in front of it, and the end of that mapping. -/
def tokens (source : Source) : List Token :=
  let size := source.chars.length
  let start : Scanner := { cursor := ⟨source.chars, {}⟩, torn := source.torn, size := size }
  ((start.emit .streamStart).run (4 * size + 16) #[]).toList

end RoleGraph.Yaml
