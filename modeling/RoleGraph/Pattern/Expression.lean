import RoleGraph.Pattern.Regex
import RoleGraph.Text.Category
import RoleGraph.Text.Script

/-!
# Reading regular expressions

The written form of expressions: literals, classes in brackets, Unicode properties, groups,
alternatives, repetition by `*`, `+`, `?` and counts in braces, anchors and escapes. A repetition
needs something to repeat and must not follow another one. A brace that is no count stands for
itself. Counts, and counts inside each other multiplied, go up to 1000, and so does the nesting.
-/

namespace RoleGraph

namespace Regex

/-- A part of an expression. -/
structure Part where
  regex : Regex
  /-- How deeply constructs are nested in it. -/
  height : Nat := 1
  /-- How many copies of something its counts ask for at most. -/
  copies : Nat := 1
  /-- It is a single character, which joins its neighbours without a level of its own. -/
  isLetter : Bool := false

namespace Part

/-- The greatest nesting and the greatest product of counts. -/
def limit : Nat := 1000

/-- The greatest height among some parts. -/
def heightOf (ps : List Part) : Nat := ps.foldl (fun h p => max h p.height) 1

/-- The greatest number of copies among some parts. -/
def copiesOf (ps : List Part) : Nat := ps.foldl (fun n p => max n p.copies) 1

/-- Parts in sequence, given in reverse. A run of single characters counts as one part. -/
def sequence (ps : List Part) : Part :=
  let isOne := ps.length ≤ 1 || ps.all (·.isLetter)
  { regex := catAll (ps.reverse.map (·.regex))
    height := if isOne then heightOf ps else heightOf ps + 1
    copies := copiesOf ps }

/-- Alternatives, given in reverse. -/
def choice (ps : List Part) : Part :=
  { regex := altAll (ps.reverse.map (·.regex))
    height := if ps.length ≤ 1 then heightOf ps else heightOf ps + 1
    copies := copiesOf ps }

/-- A part inside one more construct. -/
def within (p : Part) : Part := { p with height := p.height + 1, isLetter := false }

/-- A part repeated by one of the marks. -/
def repeated (p : Part) (f : Regex → Regex) : Part := { p.within with regex := f p.regex }

/-- A part repeated at least `least` and, if there is a bound, at most `greatest` times. -/
def counted (p : Part) (least : Nat) (greatest : Option Nat) : Part :=
  let factor := match greatest with
    | some n => n
    | none => max least 1
  { p.within with
    regex := match greatest with
      | some n => .cat (p.regex.times least) (p.regex.atMost (n - least))
      | none => .cat (p.regex.times least) (.star p.regex)
    copies := if factor = 0 then 1 else factor * p.copies }

end Part

/-- A group that is being read: finished alternatives and the parts of the current one, both in
reverse. -/
structure Group where
  alternatives : List Part := []
  parts : List Part := []

namespace Group

/-- Add a part. -/
def push (g : Group) (p : Part) : Group := { g with parts := p :: g.parts }

/-- End an alternative. -/
def bar (g : Group) : Group := ⟨Part.sequence g.parts :: g.alternatives, []⟩

/-- The expression of a whole group. -/
def close (g : Group) : Part := Part.choice g.bar.alternatives

end Group

/-- The open groups, the innermost first, and whether the last part was repeated. -/
structure Reader where
  current : Group := {}
  outer : List Group := []
  repeated : Bool := false

/-- The value of a hexadecimal digit. -/
def hexDigit? (c : Char) : Option Nat :=
  if '0' ≤ c && c ≤ '9' then some (c.toNat - 48)
  else if 'a' ≤ c && c ≤ 'f' then some (c.toNat - 87)
  else if 'A' ≤ c && c ≤ 'F' then some (c.toNat - 55)
  else none

/-- An octal digit. -/
def isOctal (c : Char) : Bool := '0' ≤ c && c ≤ '7'

/-- The number that octal digits stand for. -/
def octalValue (cs : List Char) : Nat := cs.foldl (fun n c => n * 8 + (c.toNat - 48)) 0

/-- The number that hexadecimal digits stand for. -/
def hexValue? (cs : List Char) : Option Nat :=
  if cs.isEmpty then none
  else cs.foldlM (fun n c => (hexDigit? c).map (n * 16 + ·)) 0

/-- The character of an escape, after its backslash, and what follows it. -/
def escapedChar? : List Char → Option (Nat × List Char)
  | [] => none
  | 'x' :: '\x7b' :: rest =>
    let digits := rest.takeWhile (· != '\x7d')
    match rest.drop digits.length with
    | _ :: after => do
      let n ← hexValue? digits
      if n ≤ 0x10FFFF then some (n, after) else none
    | [] => none
  | 'x' :: a :: b :: rest => do
    let n ← hexValue? [a, b]
    some (n, rest)
  | 'a' :: rest => some (7, rest)
  | 'f' :: rest => some (12, rest)
  | 'n' :: rest => some (10, rest)
  | 'r' :: rest => some (13, rest)
  | 't' :: rest => some (9, rest)
  | 'v' :: rest => some (11, rest)
  | c :: rest =>
    if isOctal c then
      let more := (rest.take 2).takeWhile isOctal
      if c != '0' && more.isEmpty then none
      else some (octalValue (c :: more), rest.drop more.length)
    else if c.toNat < 0x80 && !c.isAlphanum then some (c.toNat, rest)
    else none

/-- The ranges of a class letter, and whether the letter stands for what is outside of them. -/
def classLetter? (c : Char) : Option CharSet :=
  let digits := [(48, 57)]
  let blanks := [(9, 10), (12, 13), (32, 32)]
  let words := [(48, 57), (65, 90), (95, 95), (97, 122)]
  match c with
  | 'd' => some ⟨false, digits⟩
  | 'D' => some ⟨true, digits⟩
  | 's' => some ⟨false, blanks⟩
  | 'S' => some ⟨true, blanks⟩
  | 'w' => some ⟨false, words⟩
  | 'W' => some ⟨true, words⟩
  | _ => none

/-- The ranges of a named class. -/
def namedClass? (name : String) : Option (Ranges) :=
  match name with
  | "alnum" => some [(48, 57), (65, 90), (97, 122)]
  | "alpha" => some [(65, 90), (97, 122)]
  | "ascii" => some [(0, 127)]
  | "blank" => some [(9, 9), (32, 32)]
  | "cntrl" => some [(0, 31), (127, 127)]
  | "digit" => some [(48, 57)]
  | "graph" => some [(33, 126)]
  | "lower" => some [(97, 122)]
  | "print" => some [(32, 126)]
  | "punct" => some [(33, 47), (58, 64), (91, 96), (123, 126)]
  | "space" => some [(9, 13), (32, 32)]
  | "upper" => some [(65, 90)]
  | "word" => some [(48, 57), (65, 90), (95, 95), (97, 122)]
  | "xdigit" => some [(48, 57), (65, 70), (97, 102)]
  | _ => none

/-- The ranges of a set. -/
def rangesOf (s : CharSet) : Ranges := if s.negated then s.ranges.complement else s.ranges

/-- The code points of a property: everything, ASCII, the assigned code points, a category or a
script. Case, spaces, hyphens and underscores in its name do not matter. -/
def property? (name : List Char) : Option Ranges :=
  let plain := String.ofList
    ((name.filter fun c => c != '_' && c != ' ' && c != '-').map Char.toLower)
  if plain == "any" then some [(0, 0x10FFFF)]
  else if plain == "ascii" then some [(0, 0x7F)]
  else if plain == "assigned" then some Category.unassigned.complement
  else (Category.named? plain).or (Script.named? plain)

/-- A property after `\p` or `\P`: a letter, or a name in braces that a caret negates. -/
def readProperty? (negated : Bool) (cs : List Char) : Option (CharSet × List Char) := do
  let (name, rest) ← match cs with
    | '\x7b' :: body =>
      let name := body.takeWhile (· != '\x7d')
      if name.length < body.length then some (name, body.drop (name.length + 1)) else none
    | c :: rest => some ([c], rest)
    | [] => none
  let (negated, name) := match name with
    | '^' :: inner => (!negated, inner)
    | _ => (negated, name)
  some (⟨negated, ← property? name⟩, rest)

/-- The set of a class escape, after its backslash, and what follows it. `none` when the escape is of
another kind, and no set when it names no property. -/
def classEscape? : List Char → Option (Option (CharSet × List Char))
  | 'p' :: rest => some (readProperty? false rest)
  | 'P' :: rest => some (readProperty? true rest)
  | c :: rest => (classLetter? c).map fun s => some (s, rest)
  | [] => none

/-- The characters before the first `:]`, and those after it. -/
def toClassEnd? : List Char → Option (List Char × List Char)
  | ':' :: ']' :: rest => some ([], rest)
  | c :: rest => (toClassEnd? rest).map fun (name, after) => (c :: name, after)
  | [] => none

/-- The name of a class written `[:name:]`, whether it is negated, and what follows it. -/
def className? (cs : List Char) : Option (String × Bool × List Char) :=
  match cs with
  | '[' :: ':' :: rest =>
    (toClassEnd? rest).map fun
      | ('^' :: letters, after) => (String.ofList letters, true, after)
      | (letters, after) => (String.ofList letters, false, after)
  | _ => none

/-- One character of a class. -/
def classChar? : List Char → Option (Nat × List Char)
  | [] => none
  | '\\' :: rest => escapedChar? rest
  | c :: rest => some (c.toNat, rest)

/-- The items of a class up to its closing bracket. Every item takes a character, so the number of
characters bounds the items. -/
def classItems (fuel : Nat) (first : Bool) (ranges : Ranges) (cs : List Char) :
    Option (Ranges × List Char) :=
  match fuel with
  | 0 => none
  | fuel + 1 =>
    match cs with
    | [] => none
    | ']' :: rest =>
      if first then classRange fuel ranges cs else some (ranges, rest)
    | '\\' :: escape =>
      match classEscape? escape with
      | some found => do
        let (s, rest) ← found
        classItems fuel false (ranges ++ rangesOf s) rest
      | none => classRange fuel ranges cs
    | _ =>
      match className? cs with
      | some (name, negated, rest) => do
        let named ← namedClass? name
        let added := if negated then Ranges.complement named else named
        classItems fuel false (ranges ++ added) rest
      | none => classRange fuel ranges cs
where
  /-- A single character or a range. -/
  classRange (fuel : Nat) (ranges : Ranges) (cs : List Char) :
      Option (Ranges × List Char) := do
    let (lo, rest) ← classChar? cs
    match rest with
    | '-' :: d :: _ =>
      if d == ']' then classItems fuel false (ranges ++ [(lo, lo)]) rest
      else
        let (hi, rest) ← classChar? (rest.drop 1)
        if hi < lo then none else classItems fuel false (ranges ++ [(lo, hi)]) rest
    | _ => classItems fuel false (ranges ++ [(lo, lo)]) rest

/-- A class after its opening bracket. -/
def readClass? (cs : List Char) : Option (CharSet × List Char) :=
  let (negated, body) := match cs with
    | '^' :: rest => (true, rest)
    | _ => (false, cs)
  (classItems (2 * body.length + 2) true [] body).map fun (ranges, rest) => (⟨negated, ranges⟩, rest)

/-- Digits of a count: no leading zero. Too many digits are out of range. -/
def countDigits? (cs : List Char) : Option (Nat × List Char) :=
  let digits := cs.takeWhile Char.isDigit
  if digits.isEmpty || (1 < digits.length && digits.head? == some '0') then none
  else
    let n := digits.foldl (fun n c => n * 10 + (c.toNat - 48)) 0
    some (if 8 < digits.length then 1001 else n, cs.drop digits.length)

/-- A count after its opening brace: the least and, if any, the greatest number of times. -/
def readCount? (cs : List Char) : Option (Nat × Option Nat × List Char) := do
  let (least, rest) ← countDigits? cs
  match rest with
  | '\x7d' :: rest => some (least, some least, rest)
  | ',' :: '\x7d' :: rest => some (least, none, rest)
  | ',' :: rest =>
    let (greatest, rest) ← countDigits? rest
    match rest with
    | '\x7d' :: rest => some (least, some greatest, rest)
    | _ => none
  | _ => none

/-- Repeat the last part, within the limits. -/
def Reader.repeatLast (r : Reader) (f : Part → Part) : Option Reader :=
  if r.repeated then none
  else match r.current.parts with
    | [] => none
    | p :: ps =>
      let p := f p
      if Part.limit < p.copies || Part.limit < p.height then none
      else some { r with current := { r.current with parts := p :: ps }, repeated := true }

/-- Add a part. -/
def Reader.push (r : Reader) (p : Part) : Reader :=
  { r with current := r.current.push p, repeated := false }

/-- Add a set of characters. -/
def Reader.pushSet (r : Reader) (s : CharSet) : Reader := r.push { regex := .set s }

/-- Add a single character. -/
def Reader.pushChar (r : Reader) (n : Nat) : Reader :=
  r.push { regex := .set ⟨false, [(n, n)]⟩, isLetter := true }

/-- Add an anchor. -/
def Reader.pushAnchor (r : Reader) (a : Anchor) : Reader := r.push { regex := .anchor a }

/-- Add the literal characters up to `\E` or the end. -/
def quotedRun : List Char → List Char × List Char
  | [] => ([], [])
  | '\\' :: 'E' :: rest => ([], rest)
  | c :: rest => let (run, after) := quotedRun rest; (c :: run, after)

/-- Read an escape outside of classes, after its backslash. -/
def Reader.escape (r : Reader) : List Char → Option (Reader × List Char)
  | [] => none
  | 'A' :: rest => some (r.pushAnchor .start, rest)
  | 'z' :: rest => some (r.pushAnchor .stop, rest)
  | 'b' :: rest => some (r.pushAnchor .wordBoundary, rest)
  | 'B' :: rest => some (r.pushAnchor .noWordBoundary, rest)
  | 'Q' :: rest =>
    let (run, after) := quotedRun rest
    some (run.foldl (fun r c => r.pushChar c.toNat) { r with repeated := false }, after)
  | cs =>
    match classEscape? cs with
    | some found => found.map fun (s, after) => (r.pushSet s, after)
    | none => (escapedChar? cs).map fun (n, after) => (r.pushChar n, after)

/-- Read one construct. -/
def Reader.step (r : Reader) (c : Char) (rest : List Char) : Option (Reader × List Char) :=
  match c with
  | '(' => some (⟨{}, r.current :: r.outer, false⟩, rest)
  | ')' =>
    match r.outer with
    | g :: gs =>
      let p := r.current.close.within
      if Part.limit < p.height then none else some (⟨g.push p, gs, false⟩, rest)
    | [] => none
  | '|' => some ({ r with current := r.current.bar, repeated := false }, rest)
  | '^' => some (r.pushAnchor .start, rest)
  | '$' => some (r.pushAnchor .stop, rest)
  | '.' => some (r.pushSet .anyInLine, rest)
  | '*' => (r.repeatLast (·.repeated .star)).map (·, rest)
  | '+' => (r.repeatLast (·.repeated .plus)).map (·, rest)
  | '?' => (r.repeatLast (·.repeated fun e => .alt .empty e)).map (·, rest)
  | '[' => (readClass? rest).map fun (s, after) => (r.pushSet s, after)
  | '\x7b' =>
    match readCount? rest with
    | none => some (r.pushChar c.toNat, rest)
    | some (least, greatest, after) =>
      let bad := 1000 < least || match greatest with
        | some n => 1000 < n || n < least
        | none => false
      if bad then none else (r.repeatLast (·.counted least greatest)).map (·, after)
  | '\\' => r.escape rest
  | _ => some (r.pushChar c.toNat, rest)

/-- Read constructs to the end; every construct takes a character. -/
def readAll : Nat → Reader → List Char → Option Reader
  | _, r, [] => some r
  | 0, _, _ => none
  | fuel + 1, r, c :: rest => do
    let (r, rest) ← r.step c rest
    readAll fuel r rest

/-- The expression that characters spell. -/
def ofChars? (cs : List Char) : Option Regex := do
  let r ← readAll cs.length {} cs
  match r.outer with
  | [] =>
    let p := r.current.close
    if Part.limit < p.height then none else some p.regex
  | _ :: _ => none

end Regex

end RoleGraph
