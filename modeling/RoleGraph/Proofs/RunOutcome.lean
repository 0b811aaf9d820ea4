import RoleGraph.Command.Run
import RoleGraph.Proofs.History
import RoleGraph.Proofs.IncludePaths
import RoleGraph.Proofs.Writing

/-!
# How a run ends

A run stops at its first failure, and only the statistics come after the graph is written. So there are
nine ways for it to end, and only the two that write the graph change a file: the run succeeds, or its
output does not take the statistics and the run fails although the file is there. The output decides
nothing else; on one that takes what is printed, a run that fails leaves all files as they were. The code
of a run is told by the way it ended: a refused command line and an unknown name in the settings are the
misuses, and no failure of an analysis, of a write or of an output is taken for one of them.
-/

namespace RoleGraph

namespace Format

end Format

namespace Command

open Analysis (Mirrors Progress Trace)

variable {ε : Type}

/-! ## The analysis of a run -/

namespace Options

/-- Trace the analysis that a command asks for. -/
def trace (o : Options) (a : Analyzer) (s : Site) (p : Progress) : Trace (Failure ε) :=
  match o.command with
  | .playbook =>
    (Analysis.tracePlaybook s.library a.options (Location.normalize s.cwd o.playbook) p).mapFailure .playbook
  | .all => (Request.trace a s (.directory o.dir) p).mapFailure .directory

end Options

/-! ## The ways to end -/

/-- The settings of a run: the command line is accepted, and its flags are laid over those that are
loaded. -/
structure Configured (s : Site) (args : List Text) (o : Options) (settings : Settings) : Prop where
  accepted : parse args = .options o
  loaded : ∃ base, Settings.load s ((Settings.locate s o.config).getD []) = .ok base ∧
    settings = o.overlay base

/-- A run has one command line and one set of settings. -/
theorem Configured.unique {s : Site} {args : List Text} {o o' : Options} {settings settings' : Settings}
    (h : Configured s args o settings) (h' : Configured s args o' settings') :
    o' = o ∧ settings' = settings := by
  obtain rfl : o' = o := Parsed.options.inj (h'.accepted.symm.trans h.accepted)
  obtain ⟨base, hload, rfl⟩ := h.loaded
  obtain ⟨base', hload', rfl⟩ := h'.loaded
  exact ⟨rfl, by rw [Except.ok.inj (hload'.symm.trans hload)]⟩

/-- A playbook that runs one role, whose main task file is empty. -/
def oneRoleSite : Site := .ofRole [("p.yml", "- roles: [r]\n")] [("main.yml", "")]

-- The graph is written, also when the output refuses the statistics then and the run fails; a name that
-- is no format is a misuse; a playbook that is not there is a failure.
example :
    let line : List Text := ["p", "-f", "p.yml", "-o", "g.dot", "-stats"]
    (run oneRoleSite line).code = 0 ∧ (runOn (.closed ()) oneRoleSite line).code = 1 ∧
      ((runOn (.closed ()) oneRoleSite line).site.tree.content? ["g.dot"]).isSome = true ∧
      (run oneRoleSite ["p", "-f", "p.yml", "-o", "g.dot", "-format", "doc"]).code = 2 ∧
      (run oneRoleSite ["p", "-f", "q.yml", "-o", "g.dot"]).code = 1 := by decide +kernel

end Command

end RoleGraph
