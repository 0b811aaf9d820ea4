import RoleGraph.Pattern.Expression
import RoleGraph.Text.Symbol

/-!
# Ignore patterns

Lines of an ignore file. A line becomes a regular expression over relative paths: a star matches
inside a path segment and two stars across segments, a leading slash ties the pattern to the root,
and a pattern also covers everything below what it names. Later lines win over earlier ones, and a
line that starts with an exclamation mark takes paths back in. A line whose expression cannot be
read is passed over.
-/

namespace RoleGraph

namespace Ignore

/-- One pattern. -/
structure Pattern where
  /-- The pattern takes matching paths back in. -/
  restores : Bool
  regex : Regex

/-- Whether a segment that does not end in a plus sign is followed by a slash and, later on the same
line, by a star and a dot. -/
def namesFilesBelow : Text → Bool
  | a :: 0x2F :: rest =>
    (a != 0x2F && a != 0x2B &&
      Text.has [0x2A, 0x2E] (rest.takeWhile (· != 0x0A))) || namesFilesBelow (0x2F :: rest)
  | _ :: rest => namesFilesBelow rest
  | [] => false

/-- A mark that stands for a star of the expression language while stars of the pattern are
replaced. -/
def starMark : Text := "#$~"

/-- The expression of a pattern without its negation mark. -/
def expression (line : Text) : Text :=
  let line := match line with
    | 0x23 :: rest => rest
    | 0x21 :: rest => rest
    | _ => line
  let line := if namesFilesBelow line && line.head? != some Text.slash then Text.slash :: line else line
  let line := Text.replace "." "\\." line
  let line := if (Text.ofString "/**/").isPrefixOf line then line.drop 1 else line
  let line := Text.replace "/**/" "(/|/.+/)" line
  let line := Text.replace "**/" ("(|." ++ starMark ++ "/)") line
  let line := Text.replace "/**" ("(|/." ++ starMark ++ ")") line
  let line := Text.replace "\\*" ("\\" ++ starMark) line
  let line := Text.replace "*" "([^/]*)" line
  let line := Text.replace "?" "\\?" line
  let line := Text.replace starMark "*" line
  let tail : Text := if line.getLast? == some Text.slash then "(|.*)$" else "(|/.*)$"
  match line ++ tail with
  | 0x2F :: rest => "^(|/)" ++ rest
  | body => "^(|.*/)" ++ body

/-- The pattern of a line, unless the line is empty, a comment or unreadable. -/
def Pattern.ofLine? (line : Text) : Option Pattern :=
  let line := Text.dropRightWhile (· == 0x0D) line
  if line.head? == some 0x23 then none
  else
    let line := Text.dropRightWhile (· == 0x20) (line.dropWhile (· == 0x20))
    match line with
    | [] => none
    | b :: rest => do
      let (restores, body) := if b = 0x21 then (true, rest) else (false, line)
      let cs ← Text.chars? (expression body)
      let regex ← Regex.ofChars? cs
      some ⟨restores, regex⟩

/-- The patterns of some lines. -/
def ofLines (lines : List Text) : List Pattern := lines.filterMap Pattern.ofLine?

/-- Whether a path is ignored: the last pattern that matches decides. -/
def covers (patterns : List Pattern) (path : Text) : Bool :=
  let cs := Text.charsLossy path
  patterns.foldl (fun ignored p => if p.regex.search cs then !p.restores else ignored) false

end Ignore

end RoleGraph
