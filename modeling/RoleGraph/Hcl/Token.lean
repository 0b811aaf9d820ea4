import RoleGraph.Text.Blank
import RoleGraph.Text.Identifier
import RoleGraph.Text.Symbol

/-!
# Tokens of configuration files

A file is cut into tokens from left to right. Quoted texts and heredocs are cut into pieces of
literal text and sequences of code between `${` or `%{` and the matching brace, so the scanner
keeps a stack of what it is inside of. Comments vanish, but one that runs to the end of its line
leaves the line break. A text that cannot be cut into tokens has none.
-/

namespace RoleGraph

namespace Hcl

/-- Punctuation and operators. -/
inductive Mark where
  | openParen | closeParen | openBracket | closeBracket | openBrace | closeBrace
  | dot | comma | colon | doubleColon | assign | question | arrow | ellipsis
  | plus | minus | star | slash | percent | bang
  | equal | notEqual | less | lessEqual | greater | greaterEqual | both | either
  deriving DecidableEq, Repr

/-- A token. -/
inductive Token where
  | name (t : Text)
  | number (t : Text)
  | mark (m : Mark)
  | newline
  | openQuote
  | closeQuote
  /-- The start of a heredoc; `flush` when its lines lose their common indentation. -/
  | openHeredoc (flush : Bool)
  | closeHeredoc
  /-- Literal text, with escapes replaced. In a heredoc it never spans a line break. -/
  | literal (t : Text)
  /-- The start of an interpolated expression; `trim` removes blanks before it. -/
  | interpolation (trim : Bool)
  /-- The start of a directive; `trim` removes blanks before it. -/
  | directive (trim : Bool)
  /-- The end of either; `trim` removes blanks after it. -/
  | close (trim : Bool)
  deriving DecidableEq, Repr

namespace Token

/-- What the scanner is inside of. -/
inductive Context where
  /-- Code of a template, with the number of braces that are open in it. -/
  | code (braces : Nat)
  | quote
  /-- A heredoc with its marker; `atStart` when no text of the line was read yet. -/
  | heredoc (marker : Text) (atStart : Bool)
  deriving DecidableEq, Repr

/-- The rest of the symbols after given characters, if they start with them. -/
def after? : List Char → List Symbol → Option (List Symbol)
  | [], ss => some ss
  | c :: cs, s :: ss => if s = .char c then after? cs ss else none
  | _ :: _, [] => none

/-- A test on characters that no stray byte passes. -/
def test (p : Char → Bool) : Symbol → Bool
  | .char c => p c
  | .stray _ => false

/-- A character that starts a name. -/
def startsName (c : Char) : Bool := startsWord c || c == '_'

/-- A character that may follow in a name. -/
def continuesName (c : Char) : Bool := continuesWord c || c == '-'

/-- The operators and punctuation other than braces, a longer one before its beginnings. -/
def marks : List (String × Mark) :=
  [("...", .ellipsis), ("==", .equal), ("!=", .notEqual), ("<=", .lessEqual), (">=", .greaterEqual),
    ("&&", .both), ("||", .either), ("=>", .arrow), ("::", .doubleColon), ("(", .openParen),
    (")", .closeParen), ("[", .openBracket), ("]", .closeBracket), (".", .dot), (",", .comma),
    (":", .colon), ("=", .assign), ("?", .question), ("+", .plus), ("-", .minus), ("*", .star),
    ("/", .slash), ("%", .percent), ("!", .bang), ("<", .less), (">", .greater)]

/-- The operator or punctuation at the front. -/
def mark? (ss : List Symbol) : Option (Mark × List Symbol) :=
  marks.findSome? fun (s, m) => (after? s.toList ss).map (m, ·)

/-- The rest after a line break at the front. -/
def afterBreak? : List Symbol → Option (List Symbol)
  | .char '\r' :: .char '\n' :: rest => some rest
  | .char '\n' :: rest => some rest
  | _ => none

/-- The rest after the end of the line, if the line ends. -/
def afterLine? : List Symbol → Option (List Symbol)
  | [] => none
  | s :: rest => if s = .char '\n' then some rest else afterLine? rest

/-- The rest after the end of a comment in asterisks. -/
def afterComment? : List Symbol → Option (List Symbol)
  | [] => none
  | s :: rest =>
    match after? ['*', '/'] (s :: rest) with
    | some rest => some rest
    | none => afterComment? rest

/-- Whether the symbols continue an exponent: an optional sign and a digit. -/
def startsExponent : List Symbol → Bool
  | .char '+' :: s :: _ | .char '-' :: s :: _ | s :: _ => test Char.isDigit s
  | [] => false

/-- The longest run that looks like a number. -/
def numberRun : List Symbol → List Symbol × List Symbol
  | [] => ([], [])
  | s :: rest =>
    if test (fun c => c.isDigit || c == '.') s then
      let (run, rest) := numberRun rest
      (s :: run, rest)
    else if test (fun c => c == 'e' || c == 'E') s && startsExponent rest then
      match rest with
      | [] => ([], [s])
      | sign :: more =>
        let (run, rest) := numberRun more
        (s :: sign :: run, rest)
    else ([], s :: rest)

/-- A number at the front, which does not end in a point. -/
def takeNumber (ss : List Symbol) : Text × List Symbol :=
  let (run, rest) := numberRun ss
  let isDot : Symbol → Bool := test (· == '.')
  let digits := (run.reverse.dropWhile isDot).reverse
  (Text.ofSymbols digits, run.drop digits.length ++ rest)

/-- A name at the front. -/
def takeName (ss : List Symbol) : Text × List Symbol :=
  (Text.ofSymbols (ss.takeWhile (test continuesName)), ss.dropWhile (test continuesName))

/-- The start of a sequence of code at the front. -/
def sequence? (ss : List Symbol) : Option (Token × List Symbol) :=
  let starts : List (List Char × Token) :=
    [(['$', '\x7b', '~'], .interpolation true), (['$', '\x7b'], .interpolation false),
      (['%', '\x7b', '~'], .directive true), (['%', '\x7b'], .directive false)]
  starts.findSome? fun (cs, t) => (after? cs ss).map (t, ·)

/-- The start of a sequence, spelled as literal text by doubling its first character. -/
def doubled? (ss : List Symbol) : Option (Text × List Symbol) :=
  match after? ['$', '$', '\x7b'] ss with
  | some rest => some ("$\x7b", rest)
  | none => (after? ['%', '%', '\x7b'] ss).map (Text.ofString "%\x7b", ·)

/-- The start of a heredoc: whether it is flush, its marker and what follows the line. -/
def heredoc? (ss : List Symbol) : Option (Bool × Text × List Symbol) := do
  let body ← after? ['<', '<'] ss
  let (flush, body) := match after? ['-'] body with
    | some rest => (true, rest)
    | none => (false, body)
  let first ← body.head?
  if !test startsName first then none
  let (marker, rest) := takeName body
  let rest ← afterBreak? rest
  return (flush, marker, rest)

/-- The value of a hexadecimal digit. -/
def hexDigit? : Symbol → Option Nat
  | .stray _ => none
  | .char c =>
    if c.isDigit then some (c.toNat - 48)
    else if 'a' ≤ c && c ≤ 'f' then some (c.toNat - 87)
    else if 'A' ≤ c && c ≤ 'F' then some (c.toNat - 55)
    else none

/-- The character with a given code in hexadecimal digits; a surrogate is none. -/
def charOfHex? (digits : List Symbol) : Option Char := do
  let ds ← digits.mapM hexDigit?
  let n := ds.foldl (fun n d => n * 16 + d) 0
  if n.isValidChar then some (Char.ofNat n) else none

/-- The character of an escape of one letter. -/
def simpleEscape? : Symbol → Option Char
  | .char 'n' => some '\n'
  | .char 'r' => some '\r'
  | .char 't' => some '\t'
  | .char '"' => some '"'
  | .char '\\' => some '\\'
  | _ => none

/-- How many bytes follow a lead byte. Lead bytes of overlong forms and of codes that are too large
count as well. -/
def tailLength? (b : UInt8) : Option Nat :=
  if 0xC0 ≤ b && b ≤ 0xDF then some 1
  else if 0xE0 ≤ b && b ≤ 0xEF then some 2
  else if 0xF0 ≤ b && b ≤ 0xF7 then some 3
  else none

/-- The bytes of a character that is no well-formed one but has the form of one, and how many of
them follow the lead byte. -/
def loose? (lead : UInt8) (rest : List Symbol) : Option (Text × Nat) := do
  let n ← tailLength? lead
  let tail ← (rest.take n).mapM fun
    | .stray b => if Text.isTail b then some b else none
    | .char _ => none
  if tail.length = n then some (lead :: tail, n) else none

/-- Literal text of a quoted text, up to its end or to a sequence. `skip` counts symbols that an
escape has used. -/
def quotedFrom : Nat → List Symbol → Option (Text × List Symbol)
  | _, [] => none
  | skip + 1, _ :: rest => quotedFrom skip rest
  | 0, s :: rest =>
    let put (t : Text) (used : Nat) : Option (Text × List Symbol) :=
      (quotedFrom used rest).map fun (more, left) => (t ++ more, left)
    if s = .char '"' || (sequence? (s :: rest)).isSome then some ([], s :: rest)
    else match doubled? (s :: rest) with
      | some (t, _) => put t 2
      | none =>
        match s with
        | .stray b => (loose? b rest).bind fun (t, used) => put t used
        | .char '\n' | .char '\r' => none
        | .char '\\' =>
          match rest with
          | .char 'u' :: more =>
            if more.length < 4 then none
            else (charOfHex? (more.take 4)).bind fun c => put (Text.encodeChar c) 5
          | .char 'U' :: more =>
            if more.length < 8 then none
            else (charOfHex? (more.take 8)).bind fun c => put (Text.encodeChar c) 9
          | e :: _ => (simpleEscape? e).bind fun c => put (Text.encodeChar c) 1
          | [] => none
        | .char c => put (Text.encodeChar c) 0

/-- Literal text of a heredoc, up to the end of the line or to a sequence; the flag tells whether the
line ended. -/
def lineFrom : Nat → List Symbol → Option (Text × Bool × List Symbol)
  | _, [] => none
  | skip + 1, _ :: rest => lineFrom skip rest
  | 0, s :: rest =>
    let put (t : Text) (used : Nat) : Option (Text × Bool × List Symbol) :=
      (lineFrom used rest).map fun (more, ended, left) => (t ++ more, ended, left)
    match afterBreak? (s :: rest) with
    | some left => some (if s = .char '\r' then "\r\n" else "\n", true, left)
    | none =>
      if (sequence? (s :: rest)).isSome then some ([], false, s :: rest)
      else match doubled? (s :: rest) with
        | some (t, _) => put t 2
        | none =>
          match s with
          | .stray b => (loose? b rest).bind fun (t, used) => put t used
          | .char '\r' => none
          | .char c => put (Text.encodeChar c) 0

/-- Scan from a context. The fuel bounds the number of steps, each of which reads a symbol. -/
def scan : Nat → List Context → List Symbol → Option (List Token)
  | 0, stack, ss => if stack.isEmpty && ss.isEmpty then some [] else none
  | _ + 1, stack, [] => if stack.isEmpty then some [] else none
  | fuel + 1, .quote :: outer, s :: rest =>
    if s = .char '"' then (scan fuel outer rest).map (.closeQuote :: ·)
    else match sequence? (s :: rest) with
      | some (t, rest) => (scan fuel (.code 0 :: .quote :: outer) rest).map (t :: ·)
      | none => do
        let (t, rest) ← quotedFrom 0 (s :: rest)
        let more ← scan fuel (.quote :: outer) rest
        return .literal t :: more
  | fuel + 1, .heredoc marker atStart :: outer, s :: rest =>
    match sequence? (s :: rest) with
    | some (t, rest) => (scan fuel (.code 0 :: .heredoc marker false :: outer) rest).map (t :: ·)
    | none => do
      let (t, ended, rest) ← lineFrom 0 (s :: rest)
      if ended && atStart && Text.trim t = marker then
        let more ← scan fuel outer rest
        return .closeHeredoc :: .newline :: more
      else
        let more ← scan fuel (.heredoc marker ended :: outer) rest
        return .literal t :: more
  | fuel + 1, stack, s :: rest =>
    let all := s :: rest
    let emit (t : Token) (stack : List Context) (rest : List Symbol) : Option (List Token) :=
      (scan fuel stack rest).map (t :: ·)
    let comment (rest : List Symbol) : Option (List Token) :=
      match afterLine? rest with
      | some rest => emit .newline stack rest
      | none => if stack.isEmpty then some [] else none
    match s with
    | .char ' ' | .char '\t' => scan fuel stack rest
    | .char '#' => comment rest
    | .char '"' => emit .openQuote (.quote :: stack) rest
    | .char '\x7b' =>
      match stack with
      | .code n :: outer => emit (.mark .openBrace) (.code (n + 1) :: outer) rest
      | _ => emit (.mark .openBrace) stack rest
    | .char '\x7d' =>
      match stack with
      | .code 0 :: outer => emit (.close false) outer rest
      | .code (n + 1) :: outer => emit (.mark .closeBrace) (.code n :: outer) rest
      | _ => emit (.mark .closeBrace) stack rest
    | .char '~' =>
      match stack, after? ['\x7d'] rest with
      | .code 0 :: outer, some rest => emit (.close true) outer rest
      | _, _ => none
    | _ =>
      match afterBreak? all with
      | some rest => emit .newline stack rest
      | none =>
        if test startsName s then
          let (t, rest) := takeName all
          emit (.name t) stack rest
        else if test Char.isDigit s then
          let (t, rest) := takeNumber all
          emit (.number t) stack rest
        else match after? ['/', '/'] all, after? ['/', '*'] all, heredoc? all with
          | some rest, _, _ => comment rest
          | _, some rest, _ => (afterComment? rest).bind (scan fuel stack)
          | _, _, some (flush, marker, rest) =>
            emit (.openHeredoc flush) (.heredoc marker true :: stack) rest
          | none, none, none => (mark? all).bind fun (m, rest) => emit (.mark m) stack rest

/-- The text without a byte order mark. -/
def withoutMark : Text → Text := Text.dropLeading [0xEF, 0xBB, 0xBF]

/-- The tokens of a text. -/
def ofText? (t : Text) : Option (List Token) :=
  let ss := Text.symbols (withoutMark t)
  scan (ss.length + 1) [] ss

end Token

end Hcl

end RoleGraph
