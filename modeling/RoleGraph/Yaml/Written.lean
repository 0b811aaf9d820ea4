import RoleGraph.Text.Base64
import RoleGraph.Text.Symbol
import RoleGraph.Yaml.Cursor
import RoleGraph.Yaml.Display

/-!
# Written scalars

How a scalar is spelled in a written document. A string is plain when it reads back as the same
string, literal when it spans lines, and quoted otherwise; bytes that are no UTF-8 are written in
base 64. Lines are never folded.
-/

namespace RoleGraph.Yaml

/-- Written floats use the words of the format for infinities and for a value that is no number. -/
def writtenLayout : Double.Layout :=
  { displayLayout with positiveInfinity := ".inf", negativeInfinity := "-.inf", notANumber := ".nan" }

/-- The characters that need no escape. -/
def isWritable (c : Char) : Bool :=
  let n := c.toNat
  n == 0x0A || (0x20 ≤ n && n ≤ 0x7E) || (0xA0 ≤ n && n ≤ 0xD7FF) ||
    (0xE000 ≤ n && n ≤ 0xFFFD && n != 0xFEFF)

/-- A character that forces double quotes; a tab only rules the other inline styles out. -/
def isSpecial (c : Char) : Bool := c != '\t' && !isWritable c

/-- Whether some character satisfies `p` and the next one satisfies `q`. -/
def hasPair (p q : Char → Bool) : List Char → Bool
  | a :: b :: rest => (p a && q b) || hasPair p q (b :: rest)
  | _ => false

/-- Whether the first character of a plain scalar would be taken for something else. -/
def startsIndicator : List Char → Bool
  | [] => false
  | c :: rest =>
    let blankNext := match rest with
      | [] => true
      | d :: _ => isBlank d
    "#,[]\x7b\x7d&*!|>\x27\"%@\x60".toList.contains c || ((c == '?' || c == ':' || c == '-') && blankNext) ||
      "---".toList.isPrefixOf (c :: rest) || "...".toList.isPrefixOf (c :: rest)

/-- Whether a colon ends a key, or a number sign starts a comment, inside the text. -/
def hasIndicator (cs : List Char) : Bool :=
  hasPair (· == ':') isBlank cs || cs.getLast? == some ':' ||
    hasPair (fun c => isBlank c || isBreak c || c == '\x00') (· == '#') cs

/-- Whether a text can stand without quotes in block context. -/
def plainAllowed (cs : List Char) : Bool :=
  !startsIndicator cs && !hasIndicator cs && cs.head? != some ' ' && cs.getLast? != some ' ' &&
    !cs.any fun c => c == '\t' || isSpecial c || isBreak c

/-- Whether a text can stand in single quotes. -/
def singleAllowed (cs : List Char) : Bool :=
  !hasPair (· == ' ') isBreak cs && !hasPair isBreak (· == ' ') cs &&
    !cs.any fun c => c == '\t' || isSpecial c

/-- Whether a text can be written as literal lines. -/
def literalAllowed (cs : List Char) : Bool :=
  cs.getLast? != some ' ' && !hasPair (· == ' ') isBreak cs && !cs.any isSpecial

/-- The spelling styles of a scalar. -/
inductive Style where
  | plain
  | single
  | double
  | literal
  deriving DecidableEq

/-- The words that older readers take for truth values. -/
def isOldTruth (t : Text) : Bool :=
  ["y", "Y", "yes", "Yes", "YES", "on", "On", "ON", "n", "N", "no", "No", "NO", "off", "Off",
    "OFF"].any fun w => t == Text.ofString w

/-- The sexagesimal groups of a number: a colon and one or two digits, the first below six when
there are two. Returns what follows the groups, and whether there was one. -/
def sexagesimalGroups (found : Bool) : Text → Bool × Text
  | 0x3A :: a :: b :: rest =>
    if 0x30 ≤ a && a ≤ 0x35 && Scalar.isDigitByte b then sexagesimalGroups true rest
    else if Scalar.isDigitByte a then sexagesimalGroups true (b :: rest)
    else (found, 0x3A :: a :: b :: rest)
  | [0x3A, a] => if Scalar.isDigitByte a then (true, []) else (found, [0x3A, a])
  | t => (found, t)

/-- Whether a text looks like a number of base sixty, such as `12:30`. -/
def isSexagesimal (t : Text) : Bool :=
  match (Scalar.splitSign t).2 with
  | [] => false
  | d :: rest =>
    Scalar.isDigitByte d &&
      match sexagesimalGroups false (rest.dropWhile fun b => Scalar.isDigitByte b || b == 0x5F) with
      | (false, _) => false
      | (true, []) => true
      | (true, c :: fraction) =>
        c == 0x2E && fraction.all fun b => Scalar.isDigitByte b || b == 0x5F

/-- Whether a text without quotes reads back as the same string, for older readers too. -/
def readsPlain (t : Text) : Bool :=
  Scalar.ofPlain t == .str t && !isOldTruth t && !isSexagesimal t

/-- The style of a string: the simplest one that is allowed. -/
def styleOf (prefersPlain : Bool) (cs : List Char) : Style :=
  let inline (s : Style) : Style :=
    let s := if s = .plain && !plainAllowed cs then .single else s
    if s = .single && !singleAllowed cs then .double else s
  if cs.contains '\n' then if literalAllowed cs then .literal else .double
  else inline (if prefersPlain then .plain else .double)

/-- The escape of a character between double quotes. -/
def escapeOf (c : Char) : Text :=
  match c.toNat with
  | 0x00 => "\\0"
  | 0x07 => "\\a"
  | 0x08 => "\\b"
  | 0x09 => "\\t"
  | 0x0A => "\\n"
  | 0x0B => "\\v"
  | 0x0C => "\\f"
  | 0x0D => "\\r"
  | 0x1B => "\\e"
  | 0x22 => "\\\""
  | 0x5C => "\\\\"
  | 0x85 => "\\N"
  | 0xA0 => "\\_"
  | 0x2028 => "\\L"
  | 0x2029 => "\\P"
  | n =>
    let digits (width : Nat) : Text := (Text.hex width n).map fun b => if 0x61 ≤ b then b - 0x20 else b
    if n ≤ 0xFF then "\\x" ++ digits 2
    else if n ≤ 0xFFFF then "\\u" ++ digits 4
    else "\\U" ++ digits 8

/-- A text between double quotes. A text that starts with a byte order mark is escaped throughout. -/
def doubleQuoted (cs : List Char) : Text :=
  let marked := cs.head? == some '\uFEFF'
  "\"" ++ cs.flatMap (fun c =>
    if marked || !isWritable c || isBreak c || c == '"' || c == '\\' then escapeOf c
    else Text.encodeChar c) ++ "\""

/-- The given number of spaces. -/
def spaces (n : Nat) : Text := List.replicate n 0x20

/-- The characters of lines, each line indented after a break; `fresh` means that a break was just
written. -/
def indentLines (indent : Nat) (escape : Char → Text) : Bool → List Char → Text
  | _, [] => []
  | fresh, c :: rest =>
    if isBreak c then Text.encodeChar c ++ indentLines indent escape true rest
    else (if fresh then spaces indent else []) ++ escape c ++ indentLines indent escape false rest

/-- A text between single quotes, with quotes doubled. -/
def singleQuoted (indent : Nat) (cs : List Char) : Text :=
  "'" ++ indentLines indent (fun c => if c == '\x27' then "''" else Text.encodeChar c) false cs ++ "'"

/-- The header of a literal: the indentation, when the first line hides it, and what becomes of the
line breaks at the end. -/
def literalHeader (cs : List Char) : Text :=
  let hint : Text := match cs.head? with
    | some c => if c == ' ' || isBreak c then "4" else []
    | none => []
  let chomp : Text := match cs.reverse with
    | [] => "-"
    | [c] => if isBreak c then "+" else "-"
    | c :: d :: _ => if !isBreak c then "-" else if isBreak d then "+" else []
  "|" ++ hint ++ chomp

/-- A text as literal lines. -/
def literal (indent : Nat) (cs : List Char) : Text :=
  let start : Text := match cs.head? with
    | some c => if isBreak c then [] else "\n"
    | none => []
  literalHeader cs ++ start ++ indentLines indent Text.encodeChar true cs

/-- A string in a style. -/
def spell (style : Style) (indent : Nat) (cs : List Char) : Text :=
  match style with
  | .plain => Text.ofChars cs
  | .single => singleQuoted indent cs
  | .double => doubleQuoted cs
  | .literal => literal indent cs

/-- Cut a text into lines of 70 bytes, each ended by a line feed; a short text is left alone. -/
def foldedLetters (t : Text) : Text :=
  if t.length < 70 then t else go t.length t
where
  /-- The fuel is the length of the text, of which every step takes some. -/
  go : Nat → Text → Text
    | 0, _ => []
    | fuel + 1, t => if t.isEmpty then [] else t.take 70 ++ "\n" ++ go fuel (t.drop 70)

/-- A scalar with its spelling decided. -/
structure Spelled where
  tag : Text := []
  chars : List Char
  style : Style

/-- Decide the spelling of a scalar. -/
def Scalar.spelled : Scalar → Spelled
  | .null => ⟨[], "null".toList, .plain⟩
  | .bool b => ⟨[], (if b then "true" else "false").toList, .plain⟩
  | .int n => ⟨[], (Text.ofInt n).charsLossy, .plain⟩
  | .float x => ⟨[], (x.format writtenLayout).charsLossy, .plain⟩
  | .time t => ⟨[], t.compact.charsLossy, .plain⟩
  | .str t =>
    match t.chars? with
    | some cs => ⟨[], cs, styleOf (readsPlain t) cs⟩
    | none =>
      let cs := (foldedLetters (Base64.encode t)).charsLossy
      ⟨Tag.binary, cs, styleOf true cs⟩

namespace Spelled

/-- Whether a scalar can be a key on the line of its value. -/
def isSimpleKey (s : Spelled) : Bool :=
  !s.chars.any isBreak && s.tag.length + (Text.ofChars s.chars).length ≤ 128

/-- The written scalar; lines after the first are indented. -/
def render (s : Spelled) (indent : Nat) : Text :=
  (if s.tag.isEmpty then [] else s.tag ++ Text.ofString " ") ++ spell s.style indent s.chars

end Spelled

end RoleGraph.Yaml
