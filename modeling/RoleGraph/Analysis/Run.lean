import RoleGraph.Analysis.Candidates

/-!
# Analyses of a site

An analyzer is an analysis with everything it was told once; it is run on single playbooks and on
directories, and each run adds to the same graph.
-/

namespace RoleGraph

/-- The settings of an analyzer. -/
structure Analyzer where
  options : Analysis.Options
  matcher : Matcher := .suffix
  excludes : List Text := []

namespace Analyzer

/-- An analyzer for the roles below a directory, which is made absolute. -/
def ofRolesDir (s : Site) (rolesDir : Text) : Analyzer :=
  { options := { rolesDir := Location.normalize s.cwd rolesDir } }

/-- What an analyzer may be told. A depth below one, no matcher or no include keys leave the built-in
choice. -/
structure Choices where
  allRoles : Bool := false
  maxDepth : Int := 0
  matcher : Option Matcher := none
  includeKeys : List Text := []
  excludes : List Text := []

/-- An analyzer for the roles below a directory with some choices made. -/
def ofChoices (s : Site) (rolesDir : Text) (c : Choices) : Analyzer :=
  let a := ofRolesDir s rolesDir
  { options :=
      { a.options with
        allRoles := c.allRoles
        maxDepth := if 0 < c.maxDepth then c.maxDepth.toNat else a.options.maxDepth
        includeKeys := if c.includeKeys.isEmpty then a.options.includeKeys else c.includeKeys }
    matcher := c.matcher.getD a.matcher
    excludes := c.excludes }

/-- Add the playbook at a location to the graph. -/
def playbook (a : Analyzer) (s : Site) (location : Text) :
    Analysis.Step Analysis.PlaybookError Unit :=
  Analysis.followPlaybook s.library a.options (Location.normalize s.cwd location)

/-- The playbook candidates below a root, in byte order. -/
def candidates (a : Analyzer) (s : Site) (root : Text) :
    Analysis.Step Candidates.Failure (List Text) := do
  match Candidates.find s a.options.rolesDir a.matcher a.excludes (Location.normalize s.cwd root) with
  | .error e => throw e
  | .ok found =>
    (Candidates.skipped found).forM fun l =>
      Analysis.note .debug "skipping roles dir" [("path", .text l)]
    return Candidates.sorted found

/-- Why a directory cannot be analyzed. -/
inductive DirectoryError where
  | candidates (cause : Candidates.Failure)
  | playbook (cause : Analysis.PlaybookError)

/-- The wording of a directory that cannot be analyzed. -/
def DirectoryError.message : DirectoryError → Text
  | .candidates cause => cause.message
  | .playbook cause => cause.message

/-- Add every playbook candidate below a root to the graph. -/
def directory (a : Analyzer) (s : Site) (root : Text) : Analysis.Step DirectoryError Unit := do
  let locations ← Analysis.wrapping .candidates (a.candidates s root)
  Analysis.note .info "analyzing all playbooks"
    [("dir", .text root), ("count", .int (locations.length : Int))]
  locations.forM fun l => Analysis.wrapping .playbook (a.playbook s l)

end Analyzer

end RoleGraph
