import RoleGraph.Proofs.Failures
import RoleGraph.Proofs.History

/-!
# A success hides no defect

When a playbook succeeds, every role that it runs is intact: its directory of tasks exists, every
location that its includes lead to exists and holds a well-formed task file, every dynamic include
on the way finds a value, and no chain of includes is closed. Files that the memo let the analysis
pass over are no exception, whatever requests came before and however they ended, since an entry of
the memo stands for everything below its file.
-/

namespace RoleGraph

namespace Site

/-- What can be loaded exists. -/
theorem holds_of_load {s : Site} {location content : Text} (h : s.load location = .ok content) :
    s.holds location = .ok true := by
  unfold load at h
  split at h
  · simp at h
  · simp at h
  · rename_i hholds
    exact hholds

/-- A task file that loads exists. -/
theorem holds_of_tasks {s : Site} {location : Text} {tasks : List Task}
    (h : s.library.tasks location = .ok tasks) : s.holds location = .ok true := by
  cases hload : s.load location with
  | error cause =>
    have hfail : s.library.tasks location = .error cause := by simp [library, hload, bind, Except.bind]
    rw [hfail] at h
    contradiction
  | ok content => exact holds_of_load hload

end Site

namespace Scope

/-- A variable has a value that is neither null nor empty. -/
def Gives (s : Scope) (name : Text) : Prop :=
  ∃ v, Yaml.getEntry? name s.entries = some v ∧ v ≠ .scalar .null ∧ v.display .braces ≠ []

/-- A variable that is found has a value. -/
theorem gives_of_lookup {s : Scope} {name text : Text} (h : s.lookup name = some text) : s.Gives name := by
  unfold lookup at h
  split at h
  · simp at h
  · simp at h
  · rename_i v hnull hv
    dsimp only at h
    split_ifs at h with hempty
    exact ⟨v, hv, fun hv' => hnull (hv'), by simpa using hempty⟩

/-- A dynamic include that resolves has a second word, which names a variable with a value. -/
theorem resolve_dynamic {s : Scope} {target file : Text} (h : s.resolve target = .ok file)
    (hmark : Text.has templateMark target = true) :
    ∃ first name rest, Text.words target = first :: name :: rest ∧ s.Gives name := by
  unfold resolve at h
  rw [if_neg (by simp [hmark])] at h
  split at h
  · rename_i first name rest hwords
    split at h
    · rename_i text hlookup
      exact ⟨first, name, rest, hwords, gives_of_lookup hlookup⟩
    · simp at h
  · simp at h

end Scope

namespace Analysis

/-- Includes lead from the main task file of a role to a location. -/
def Reaches (lib : Library) (opts : Options) (role : Text) (scope : Scope) (l : Text) : Prop :=
  Relation.ReflTransGen (Leads lib opts role scope) (mainLocation opts role) l

/-- Nothing that includes lead to from the main task file of a role is missing or faulty. -/
structure RoleIntact (s : Site) (opts : Options) (role : Text) (scope : Scope) : Prop where
  dir_holds : s.holds (tasksDir opts role) = .ok true
  holds : ∀ l, Reaches s.library opts role scope l → s.holds l = .ok true
  wellFormed : ∀ l, Reaches s.library opts role scope l →
    ∃ tasks, s.library.tasks l = .ok tasks ∧ Task.WellFormed opts.includeKeys tasks
  /-- A dynamic include has two words, and the second one names a variable with a value. -/
  gives : ∀ l tasks, Reaches s.library opts role scope l → s.library.tasks l = .ok tasks →
    ∀ target ∈ Task.includes opts.includeKeys tasks, Text.has templateMark target = true →
      ∃ first name rest, Text.words target = first :: name :: rest ∧ scope.Gives name
  acyclic : ∀ l, Reaches s.library opts role scope l →
    ¬ Relation.TransGen (Leads s.library opts role scope) l l

variable {s : Site} {opts : Options} {role : Text} {scope : Scope} {V : List Visit}
  {memo : List (Text × UInt64)}

/-- A role whose main task file is covered by a settled memo is intact. -/
theorem Settled.roleIntact (h : Settled s.library opts V memo) (hV : Coherent opts V)
    (hdir : s.holds (tasksDir opts role) = .ok true)
    (hmain : TaskFile.Covered opts V memo ⟨role, scope, mainFile⟩) : RoleIntact s opts role scope := by
  have hcovered : ∀ l, Reaches s.library opts role scope l →
      ∃ file, TaskFile.Covered opts V memo ⟨role, scope, file⟩ ∧
        l = TaskFile.location opts ⟨role, scope, file⟩ :=
    fun l hl => h.covered_of_reaches hV hmain hl
  refine ⟨hdir, ?_, ?_, ?_, ?_⟩
  · intro l hl
    obtain ⟨file, hfile, rfl⟩ := hcovered l hl
    obtain ⟨tasks, hsound⟩ := h.soundOver hV hfile
    exact Site.holds_of_tasks hsound.loads
  · intro l hl
    obtain ⟨file, hfile, rfl⟩ := hcovered l hl
    obtain ⟨tasks, hsound⟩ := h.soundOver hV hfile
    exact ⟨tasks, hsound.loads, Task.wellFormed_of_scanFrom hsound.faultless⟩
  · intro l tasks hl htasks target htarget hmark
    obtain ⟨file, hfile, rfl⟩ := hcovered l hl
    obtain ⟨tasks', hsound⟩ := h.soundOver hV hfile
    obtain rfl : tasks' = tasks := Except.ok.inj (hsound.loads.symm.trans htasks)
    obtain ⟨next, hresolve, -⟩ := hsound.includes target htarget
    exact Scope.resolve_dynamic hresolve hmark
  · intro l hl
    obtain ⟨file, hfile, rfl⟩ := hcovered l hl
    exact h.acyclic hV hfile

end Analysis

/-- After any requests to an analyzer, a playbook that succeeds runs intact roles only, as long as the
visits so far are coherent. -/
theorem Analyzer.playbook_success_intact (a : Analyzer) (s : Site) (start : Analysis.State)
    (hstart : start.expanded = []) (requests : List Request) (location : Text)
    (hvisits : Analysis.Coherent a.options
      (a.history s (requests ++ [.playbook location]) start.progress).visits)
    (h : ((a.playbook s location).run (a.afterAll s requests start)).1 = .ok ())
    (role : Text) (scope : Scope)
    (hruns : Analysis.RunsRole s.library a.options (Location.normalize s.cwd location) role scope) :
    Analysis.RoleIntact s a.options role scope := by
  obtain ⟨hafter, hall⟩ := history_playbook a s requests location start.progress
  have hmirror := Analysis.mirrors_followPlaybook s.library a.options (Location.normalize s.cwd location)
    (a.afterAll s requests start)
  rw [progress_afterAll] at hmirror
  have hdone := hmirror.success.mp h
  have hsettled := settled_history a s (p := start.progress) hstart (requests ++ [.playbook location])
  obtain ⟨hdir, v, hv, hmain, -⟩ := Analysis.tracePlaybook_visits_main hdone hruns
  refine hsettled.roleIntact hvisits hdir ⟨⟨v, ?_, hmain⟩, ?_⟩
  · rw [hall]
    exact List.mem_append_right _ hv
  · rw [hafter]
    exact Analysis.mainKey_mem_tracePlaybook hdone hruns

/-- A site with two playbooks that run the same role under the same variables; the first one also runs
a role that does not exist. -/
def leftoverSite : Site := .ofRole
  [("bad.yml", "- vars:\n    next: b.yml\n  roles: [r]\n- roles: [gone]\n"),
   ("good.yml", "- vars:\n    next: b.yml\n  roles: [r]\n")]
  [("main.yml", "- include_tasks: a.yml\n- block:\n  - include_tasks: '\x7b\x7b next \x7d\x7d'\n"),
   ("a.yml", "- include_tasks: b.yml\n"),
   ("b.yml", "")]

/-- The second playbook of the site succeeds by what the failure of the first one left in the memo,
and its role is intact. -/
theorem Analyzer.playbook_success_intact_leftover :
    let st := Analyzer.ofRole.afterAll leftoverSite [.playbook "/bad.yml"] {}
    ((Analyzer.ofRole.playbook leftoverSite "/bad.yml").run {}).1.isOk = false ∧
      ((Analyzer.ofRole.playbook leftoverSite "/good.yml").run st).1 = .ok () ∧
      ∃ scope, Analysis.RoleIntact leftoverSite Analyzer.ofRole.options "r" scope := by
  intro st
  -- One evaluation for all, since the runs are the same.
  obtain ⟨hfails, hok, ⟨scope, hruns, -⟩, hvisits⟩ :
      ((Analyzer.ofRole.playbook leftoverSite "/bad.yml").run {}).1.isOk = false ∧
        ((Analyzer.ofRole.playbook leftoverSite "/good.yml").run st).1.isOk = true ∧
        (∃ scope, Analysis.RunsRole leftoverSite.library Analyzer.ofRole.options
          (Location.normalize leftoverSite.cwd "/good.yml") "r" scope ∧ True) ∧
        Analysis.Coherent Analyzer.ofRole.options (Analyzer.ofRole.history leftoverSite
          ([.playbook "/bad.yml"] ++ [.playbook "/good.yml"]) ({} : Analysis.State).progress).visits := by
    decide +kernel
  have hdone := Analysis.eq_ok_of_isOk hok
  exact ⟨hfails, hdone, scope, Analyzer.ofRole.playbook_success_intact leftoverSite {} rfl
    [.playbook "/bad.yml"] "/good.yml" hvisits hdone "r" scope hruns⟩

end RoleGraph
