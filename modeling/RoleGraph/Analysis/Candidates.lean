import RoleGraph.Analysis.Basic
import RoleGraph.Pattern.Ignore

/-!
# Playbook candidates

The files of a directory tree that are taken for playbooks: those whose name the matcher accepts,
unless they or a directory above them are ignored. The roles directory is left out when it lies in
the tree. The result is in byte order, so it does not depend on the order of directory listings.
-/

namespace RoleGraph

/-- Which file names are taken for playbooks. -/
inductive Matcher where
  /-- Names with the extension `.yml` or `.yaml`, in any case. -/
  | suffix
  /-- Names that contain `.yml` or `.yaml`. -/
  | substring
  deriving DecidableEq, Repr

namespace Matcher

/-- The matcher with a given name, in any case; the empty name is `suffix`. -/
def ofName? (t : Text) : Option Matcher :=
  let t := Text.lower t
  if t = [] ∨ t = Text.ofString "suffix" then some .suffix
  else if t = Text.ofString "substring" then some .substring
  else none

/-- Whether a file name is accepted. -/
def accepts (m : Matcher) (name : Text) : Bool :=
  match m with
  | .suffix =>
    let e := Text.lower (Location.extension name)
    e == Text.ofString ".yml" || e == Text.ofString ".yaml"
  | .substring => Text.has ".yml" name || Text.has ".yaml" name

/-- Whether an entry is visited: every directory is, and a file when its name is accepted. -/
def visits (m : Matcher) (name : Text) (isDirectory : Bool) : Bool := isDirectory || m.accepts name

end Matcher

namespace Candidates

/-- What decides about the entries of a tree. -/
structure Rules where
  /-- The absolute path of the root. -/
  base : Text
  /-- The plain path of the roles directory. -/
  rolesDir : Text
  matcher : Matcher
  ignored : List Ignore.Pattern

/-- The path of an entry from the root, given the directory it is in. -/
def below (parent name : Text) : Text := Location.join parent name

/-- The absolute path of an entry, given its path from the root. -/
def Rules.locate (r : Rules) (relative : Text) : Text :=
  Location.plain (Location.append r.base relative)

/-- Whether an entry is ignored; a directory also when the pattern asks for directories. -/
def Rules.ignores (r : Rules) (relative : Text) (isDirectory : Bool) : Bool :=
  Ignore.covers r.ignored relative ||
    (isDirectory && Ignore.covers r.ignored (relative ++ [Text.slash]))

/-- What a walk comes upon. -/
inductive Found where
  | candidate (location : Text)
  /-- The roles directory, which is not entered. -/
  | rolesDir (location : Text)
  deriving DecidableEq, Repr

mutual

/-- Walk an entry. -/
def walk (r : Rules) (parent name : Text) : Tree → List Found
  | .file _ =>
    let relative := below parent name
    if r.ignores relative false || !r.matcher.accepts name then []
    else [.candidate (r.locate relative)]
  | .directory children =>
    let relative := below parent name
    if r.ignores relative true then []
    else if r.locate relative = r.rolesDir then [.rolesDir (r.locate relative)]
    else walkAll r relative children

/-- Walk the entries of a directory. -/
def walkAll (r : Rules) (parent : Text) : List (Text × Tree) → List Found
  | [] => []
  | (name, t) :: rest => walk r parent name t ++ walkAll r parent rest

end

/-- The candidates among what was found, in byte order. -/
def sorted (found : List Found) : List Text :=
  Text.sort <| found.filterMap fun
    | .candidate l => some l
    | .rolesDir _ => none

/-- The roles directories among what was found. -/
def skipped (found : List Found) : List Text :=
  found.filterMap fun
    | .rolesDir l => some l
    | .candidate _ => none

/-- The name of the file with ignore patterns at the root of a tree. -/
def ignoreFile : Text := ".playgraphignore"

/-- Why a tree cannot be walked. -/
inductive Failure where
  /-- The ignore file cannot be looked at. -/
  | unchecked (location : Text) (cause : StorageError)
  /-- The ignore file cannot be read. -/
  | unreadable (location : Text) (cause : StorageError)
  /-- The root cannot be walked. -/
  | walk (root : Text) (cause : StorageError)
  deriving DecidableEq, Repr

/-- The wording of a tree that cannot be walked. -/
def Failure.message : Failure → Text
  | .unchecked l e => "failed to check " ++ l ++ ": " ++ e.message
  | .unreadable l e => "failed to read " ++ l ++ ": " ++ e.message
  | .walk r e => "failed to walk " ++ r ++ ": " ++ e.message

/-- The lines with ignore patterns: the given ones, then those of the ignore file. -/
def ignoreLines (s : Site) (excludes : List Text) (root : Text) : Except Failure (List Text) :=
  let location := Location.append root ignoreFile
  match s.holds location with
  | .error e => .error (.unchecked location e)
  | .ok false => .ok excludes
  | .ok true =>
    match s.read location with
    | .error e => .error (.unreadable location e)
    | .ok content => .ok (excludes ++ Text.splitAt 0x0A content)

/-- Walk the tree below a normalized root. -/
def find (s : Site) (rolesDir : Text) (matcher : Matcher) (excludes : List Text) (root : Text) :
    Except Failure (List Found) := do
  let lines ← ignoreLines s excludes root
  match s.walkRoot root with
  | .error e => .error (.walk root e)
  | .ok t =>
    let rules : Rules :=
      { base := s.pathOf root
        rolesDir := Location.plain rolesDir
        matcher := matcher
        ignored := Ignore.ofLines lines }
    return walkAll rules [] t.children

end Candidates

end RoleGraph
