import RoleGraph.Analysis.Run
import RoleGraph.Proofs.IncludePaths
import RoleGraph.Proofs.Mirror

/-!
# Reported failures are real

A failure of a playbook belongs to one of a few kinds. For each kind that speaks about includes, the
files bear it out: a reported cycle is a chain of includes that returns to one of its own locations,
a chain that is too deep exists with one location more than the limit, a missing variable is asked
for by a file on a chain, and what is not found does not exist. Nothing is assumed about the state
of the analysis, so earlier runs and their failures do not matter.
-/

namespace RoleGraph

namespace Analysis

/-- The kinds of failures. -/
inductive FailureKind where
  /-- A playbook, a directory of tasks or a task file does not exist. -/
  | notFound
  /-- A dynamic include names a variable without a value. -/
  | missingVariable
  /-- A document or an include cannot be read. -/
  | parse
  | cycle
  | tooDeep
  | other
  deriving DecidableEq

end Analysis

open Analysis (FailureKind)

/-- The kind of a file that cannot be loaded. -/
def LoadError.kind : LoadError → FailureKind
  | .missing _ => .notFound
  | .notPlaybook _ _ | .notTasks _ _ => .parse
  | .unchecked _ _ | .unreadable _ _ => .other

/-- The kind of an include that cannot be resolved. -/
def ResolveError.kind : ResolveError → FailureKind
  | .malformed _ => .parse
  | .missing _ _ => .missingVariable

namespace Analysis

/-- The kind of a task file that cannot be followed. -/
def ExpandError.kind : ExpandError → FailureKind
  | .cycle _ _ => .cycle
  | .tooDeep _ _ _ => .tooDeep
  | .load _ cause => cause.kind
  | .task _ _ _ _ => .parse
  | .unresolved _ _ cause => cause.kind
  | .edge _ => .other

/-- The kind of a role that cannot be followed. -/
def RoleError.kind : RoleError → FailureKind
  | .unchecked _ _ _ => .other
  | .noTasks _ _ => .notFound
  | .expand cause => cause.kind

/-- The kind of a playbook that cannot be followed. -/
def PlaybookError.kind : PlaybookError → FailureKind
  | .load cause => cause.kind
  | .play _ _ cause => cause.kind

/-- The kind of the failure of a playbook, if it failed. -/
def failureKind? : Except PlaybookError Unit → Option FailureKind
  | .ok _ => none
  | .error e => some e.kind

/-- An outcome with a kind is a failure of that kind. -/
theorem failureKind?_eq_some {r : Except PlaybookError Unit} {kind : FailureKind} :
    failureKind? r = some kind ↔ ∃ e, r = .error e ∧ e.kind = kind := by
  cases r <;> simp [failureKind?]

end Analysis

namespace Scope

/-- A variable has no value: it is absent, null or empty. -/
def Lacks (s : Scope) (name : Text) : Prop :=
  Yaml.getEntry? name s.entries = none ∨ Yaml.getEntry? name s.entries = some (.scalar .null) ∨
    ∃ v, Yaml.getEntry? name s.entries = some v ∧ v.display .braces = []

/-- A variable that is not found has no value. -/
theorem lacks_of_lookup {s : Scope} {name : Text} (h : s.lookup name = none) : s.Lacks name := by
  unfold lookup at h
  split at h
  · rename_i hnull
    exact Or.inr (Or.inl hnull)
  · rename_i hnone
    exact Or.inl hnone
  · rename_i v _ hv
    dsimp only at h
    split_ifs at h with hempty
    exact Or.inr (Or.inr ⟨v, hv, by simpa using hempty⟩)

/-- An include that lacks a variable is dynamic, and its second word is the name of the variable. -/
theorem resolve_missing {s s' : Scope} {target name : Text}
    (h : s.resolve target = .error (.missing name s')) :
    s' = s ∧ Text.has templateMark target = true ∧
      (∃ first rest, Text.words target = first :: name :: rest) ∧ s.Lacks name := by
  unfold resolve at h
  split_ifs at h with hstatic
  split at h
  · rename_i first second rest hwords
    split at h
    · simp at h
    · rename_i hlookup
      cases h
      exact ⟨rfl, by simpa using hstatic, ⟨first, rest, hwords⟩, lacks_of_lookup hlookup⟩
  · simp at h

end Scope

namespace Site

/-- A text that is reported missing does not exist at its location. -/
theorem load_missing {s : Site} {location l : Text} (h : s.load location = .error (.missing l)) :
    l = location ∧ s.holds location = .ok false := by
  unfold load at h
  split at h
  · simp at h
  · rename_i hholds
    cases h
    exact ⟨rfl, hholds⟩
  · split at h <;> simp at h

/-- What is loaded and read is missing only when it does not exist. -/
theorem load_bind_missing {α : Type} {s : Site} {location l : Text} {reading : Text → Except LoadError α}
    (hreading : ∀ content, reading content ≠ .error (.missing l))
    (h : (s.load location >>= reading) = .error (.missing l)) : s.holds location = .ok false := by
  cases hload : s.load location with
  | error cause =>
    rw [hload] at h
    cases h
    exact (load_missing hload).2
  | ok content =>
    rw [hload] at h
    exact absurd h (hreading content)

/-- A playbook that is reported missing does not exist. -/
theorem plays_missing {s : Site} {location l : Text}
    (h : s.library.plays location = .error (.missing l)) : s.holds location = .ok false := by
  refine load_bind_missing (fun content => ?_) h
  unfold playsOf
  split <;> simp

/-- A task file that is reported missing does not exist. -/
theorem tasks_missing {s : Site} {location l : Text}
    (h : s.library.tasks location = .error (.missing l)) : s.holds location = .ok false := by
  refine load_bind_missing (fun content => ?_) h
  unfold tasksOf
  split <;> simp

end Site

namespace Analysis

variable {lib : Library} {opts : Options} {role : Text} {scope : Scope}

/-- Why a role fails, in terms of the files. -/
inductive RoleFails (lib : Library) (opts : Options) (role : Text) (scope : Scope) : RoleError → Prop where
  | unchecked {cause : StorageError} (h : lib.holds (tasksDir opts role) = .error cause) :
      RoleFails lib opts role scope (.unchecked role (tasksDir opts role) cause)
  | noTasks (h : lib.holds (tasksDir opts role) = .ok false) :
      RoleFails lib opts role scope (.noTasks role (tasksDir opts role))
  | expand {v : Visit} {cause : ExpandError}
      (hpath : v.OnPath lib opts role scope (mainLocation opts role)) (h : v.Raises lib opts cause) :
      RoleFails lib opts role scope (.expand cause)

/-- A role fails for a reason that the files have. -/
theorem roleFails_of_traceRole {caller : Node} {p : Progress} {e : RoleError}
    (h : (traceRole lib opts caller scope role p).failure = some e) : RoleFails lib opts role scope e := by
  unfold traceRole at h
  split at h
  · rename_i cause hcause
    cases h
    exact .unchecked hcause
  · rename_i hnone
    cases h
    exact .noTasks hnone
  · rcases Trace.andThen_failure_eq_some h with h | ⟨h, -⟩
    · obtain ⟨cause, hcause, rfl⟩ := Option.map_eq_some_iff.mp h
      obtain ⟨v, hv, hraises⟩ := traceFile_failure_raised (by simp) hcause
      exact .expand (mainFile_visits_onPath hv) hraises
    · simp at h

/-- A playbook fails because it cannot be loaded or because of a role that it runs. -/
theorem tracePlaybook_failure {location : Text} {p : Progress} {e : PlaybookError}
    (h : (tracePlaybook lib opts location p).failure = some e) :
    (∃ cause, lib.plays location = .error cause ∧ e = .load cause) ∨
      ∃ root name role scope cause, RunsRole lib opts location role scope ∧
        e = .play root name cause ∧ RoleFails lib opts role scope cause := by
  unfold tracePlaybook at h
  split at h
  · rename_i cause hcause
    cases h
    exact Or.inl ⟨cause, hcause, rfl⟩
  · rename_i plays hplays
    right
    obtain ⟨ref, href, q, hfail, -⟩ := Trace.each_failure_eq_some h
    obtain ⟨cause, hcause, rfl⟩ := Option.map_eq_some_iff.mp hfail
    exact ⟨_, ref.play, ref.role, ref.scope, cause,
      ⟨plays, hplays, mem_roleRefs.mp ⟨ref, href, rfl, rfl⟩⟩, rfl, roleFails_of_traceRole hcause⟩

/-- A file that is at fault by itself closes no cycle and is not too deep. -/
theorem TaskFile.Faulty.kind_ne {f : TaskFile} {e : ExpandError} (h : f.Faulty lib opts e) :
    e.kind ≠ .cycle ∧ e.kind ≠ .tooDeep := by
  cases h with
  | @load cause h => cases cause <;> exact ⟨nofun, nofun⟩
  | task h hfault => exact ⟨nofun, nofun⟩
  | @unresolved tasks target cause h htarget hcause => cases cause <;> exact ⟨nofun, nofun⟩

/-- A role that fails with a cycle names a path whose last location stands exactly once before. -/
theorem RoleFails.cycle {e : RoleError} (h : RoleFails lib opts role scope e) (hkind : e.kind = .cycle) :
    ∃ chain, e = .expand (.cycle role chain) ∧
      PathFrom lib opts role scope (mainLocation opts role) chain ∧
      ∃ before last, chain = before ++ [last] ∧ before.count last = 1 := by
  cases h with
  | unchecked h => contradiction
  | noTasks h => contradiction
  | @expand v cause hpath h =>
    cases h with
    | cycle hcycle =>
      refine ⟨_, by rw [hpath.role_eq], hpath.path, v.trail, v.location opts, rfl, ?_⟩
      exact List.count_eq_one_of_mem hpath.nodup hcycle
    | tooDeep hnew hdepth => contradiction
    | faulty h => exact absurd hkind h.kind_ne.1

/-- A role that fails because of its depth has a path of one location more than the limit. -/
theorem RoleFails.tooDeep {e : RoleError} (h : RoleFails lib opts role scope e)
    (hkind : e.kind = .tooDeep) :
    ∃ path last, e = .expand (.tooDeep role last opts.maxDepth) ∧
      PathFrom lib opts role scope (mainLocation opts role) path ∧
      path.getLast? = some last ∧ path.Nodup ∧ path.length = opts.maxDepth + 1 := by
  cases h with
  | unchecked h => contradiction
  | noTasks h => contradiction
  | @expand v cause hpath h =>
    cases h with
    | cycle hcycle => contradiction
    | tooDeep hnew hdepth =>
      refine ⟨_, v.location opts, by rw [hpath.role_eq], hpath.path, by simp, ?_, ?_⟩
      · rw [← List.concat_eq_append]
        exact List.Nodup.concat hnew hpath.nodup
      · rw [List.length_append, List.length_singleton, hdepth]
    | faulty h => exact absurd hkind h.kind_ne.2

/-- A role that misses a variable has a path to a file that asks for it. -/
theorem RoleFails.missingVariable {e : RoleError} (h : RoleFails lib opts role scope e)
    (hkind : e.kind = .missingVariable) :
    ∃ path last tasks target first name rest,
      e = .expand (.unresolved role last (.missing name scope)) ∧
      PathFrom lib opts role scope (mainLocation opts role) path ∧ path.getLast? = some last ∧
      lib.tasks last = .ok tasks ∧ target ∈ Task.includes opts.includeKeys tasks ∧
      Text.has templateMark target = true ∧ Text.words target = first :: name :: rest ∧
      scope.Lacks name := by
  cases h with
  | unchecked h => contradiction
  | noTasks h => contradiction
  | @expand v cause hpath h =>
    cases h with
    | cycle hcycle => contradiction
    | tooDeep hnew hdepth => contradiction
    | faulty h =>
      cases h with
      | @load cause h => cases cause <;> contradiction
      | task h hfault => contradiction
      | @unresolved tasks target cause h htarget hcause =>
        cases cause with
        | malformed value => contradiction
        | missing name given =>
          rw [hpath.scope_eq] at hcause
          obtain ⟨rfl, hmark, ⟨first, rest, hwords⟩, hlacks⟩ := Scope.resolve_missing hcause
          exact ⟨_, v.location opts, tasks, target, first, name, rest, by rw [hpath.role_eq], hpath.path,
            by simp, h, htarget, hmark, hwords, hlacks⟩

/-- A role that does not find something has no directory of tasks or a path to nothing. -/
theorem RoleFails.notFound {s : Site} {e : RoleError} (h : RoleFails s.library opts role scope e)
    (hkind : e.kind = .notFound) :
    s.holds (tasksDir opts role) = .ok false ∨
      ∃ path last, PathFrom s.library opts role scope (mainLocation opts role) path ∧
        path.getLast? = some last ∧ s.holds last = .ok false := by
  cases h with
  | unchecked h => contradiction
  | noTasks h => exact Or.inl h
  | @expand v cause hpath h =>
    cases h with
    | cycle hcycle => contradiction
    | tooDeep hnew hdepth => contradiction
    | faulty h =>
      cases h with
      | @load cause h =>
        cases cause with
        | missing l => exact Or.inr ⟨_, v.location opts, hpath.path, by simp, Site.tasks_missing h⟩
        | unchecked l cause => contradiction
        | unreadable l cause => contradiction
        | notPlaybook l fault => contradiction
        | notTasks l fault => contradiction
      | task h hfault => contradiction
      | @unresolved tasks target cause h htarget hcause => cases cause <;> contradiction

/-- What the files bear out of a failure of the playbook at `book`, kind by kind. -/
structure PlaybookError.Real (s : Site) (opts : Options) (book : Text) (e : PlaybookError) : Prop where
  /-- The printed chain is a path whose last location stands exactly once before. -/
  cycle : e.kind = .cycle → ∃ root name role scope chain,
    e = .play root name (.expand (.cycle role chain)) ∧
    e.message = root ++ " play " ++ name ++ ": " ++
      ("role " ++ role ++ ": include cycle detected: " ++ Text.joinWith " -> " chain) ∧
    RunsRole s.library opts book role scope ∧
    PathFrom s.library opts role scope (mainLocation opts role) chain ∧
    ∃ before last, chain = before ++ [last] ∧ before.count last = 1
  /-- There is a path of different locations, one more than the limit, to the named location. -/
  tooDeep : e.kind = .tooDeep → ∃ root name role scope path last,
    e = .play root name (.expand (.tooDeep role last opts.maxDepth)) ∧
    RunsRole s.library opts book role scope ∧
    PathFrom s.library opts role scope (mainLocation opts role) path ∧
    path.getLast? = some last ∧ path.Nodup ∧ path.length = opts.maxDepth + 1
  /-- A file on a path has a dynamic include whose second word has no value in the play. -/
  missingVariable : e.kind = .missingVariable →
    ∃ root play role scope path last tasks target first name rest,
      e = .play root play (.expand (.unresolved role last (.missing name scope))) ∧
      RunsRole s.library opts book role scope ∧
      PathFrom s.library opts role scope (mainLocation opts role) path ∧
      path.getLast? = some last ∧ s.library.tasks last = .ok tasks ∧
      target ∈ Task.includes opts.includeKeys tasks ∧ Text.has templateMark target = true ∧
      Text.words target = first :: name :: rest ∧ scope.Lacks name
  /-- The playbook, the directory of tasks of a role or a location on a path does not exist. -/
  notFound : e.kind = .notFound →
    s.holds book = .ok false ∨
    (∃ role scope, RunsRole s.library opts book role scope ∧
      s.holds (tasksDir opts role) = .ok false) ∨
    ∃ role scope path last, RunsRole s.library opts book role scope ∧
      PathFrom s.library opts role scope (mainLocation opts role) path ∧
      path.getLast? = some last ∧ s.holds last = .ok false

/-- A playbook that cannot be loaded fails for real. -/
theorem PlaybookError.real_load {s : Site} {book : Text} {cause : LoadError}
    (h : s.library.plays book = .error cause) : (PlaybookError.load cause).Real s opts book := by
  refine ⟨fun hkind => ?_, fun hkind => ?_, fun hkind => ?_, fun hkind => ?_⟩
  · cases cause <;> contradiction
  · cases cause <;> contradiction
  · cases cause <;> contradiction
  · cases cause with
    | missing l => exact Or.inl (Site.plays_missing h)
    | unchecked l cause => contradiction
    | unreadable l cause => contradiction
    | notPlaybook l fault => contradiction
    | notTasks l fault => contradiction

/-- A role that fails makes its playbook fail for real. -/
theorem PlaybookError.real_play {s : Site} {book root name : Text} {cause : RoleError}
    (hruns : RunsRole s.library opts book role scope) (h : RoleFails s.library opts role scope cause) :
    (PlaybookError.play root name cause).Real s opts book := by
  refine ⟨fun hkind => ?_, fun hkind => ?_, fun hkind => ?_, fun hkind => ?_⟩
  · obtain ⟨chain, rfl, hpath, hlast⟩ := h.cycle hkind
    exact ⟨root, name, role, scope, chain, rfl, rfl, hruns, hpath, hlast⟩
  · obtain ⟨path, last, rfl, hpath⟩ := h.tooDeep hkind
    exact ⟨root, name, role, scope, path, last, rfl, hruns, hpath⟩
  · obtain ⟨path, last, tasks, target, first, missed, rest, rfl, hpath⟩ := h.missingVariable hkind
    exact ⟨root, name, role, scope, path, last, tasks, target, first, missed, rest, rfl, hruns, hpath⟩
  · rcases h.notFound hkind with hdir | ⟨path, last, hpath⟩
    · exact Or.inr (Or.inl ⟨role, scope, hruns, hdir⟩)
    · exact Or.inr (Or.inr ⟨role, scope, path, last, hruns, hpath⟩)

end Analysis

/-- Every failure of a playbook is real, whatever was analyzed before and whatever the state. -/
theorem Analyzer.playbook_failure_real (a : Analyzer) (s : Site) (location : Text) (st : Analysis.State)
    (e : Analysis.PlaybookError) (h : ((a.playbook s location).run st).1 = .error e) :
    e.Real s a.options (Location.normalize s.cwd location) := by
  have hmirror := Analysis.mirrors_followPlaybook s.library a.options (Location.normalize s.cwd location) st
  rcases Analysis.tracePlaybook_failure (hmirror.failure.mp h) with
    ⟨cause, hcause, rfl⟩ | ⟨root, name, role, scope, cause, hruns, rfl, hrole⟩
  · exact Analysis.PlaybookError.real_load hcause
  · exact Analysis.PlaybookError.real_play hruns hrole

/-- A site whose role includes its main task file again, by a variable of the play. -/
def loopingSite : Site := .ofRole
  [("p.yml", "- vars:\n    next: a.yml\n  roles: [r]\n")]
  [("main.yml", "- include_tasks: b.yml\n- block:\n  - include_tasks: '\x7b\x7b next \x7d\x7d'\n"),
   ("a.yml", "- include_tasks: main.yml\n"),
   ("b.yml", "")]

/-- The looping site fails with a real cycle again after it failed before. -/
theorem Analyzer.playbook_failure_real_looping :
    let st := ((Analyzer.ofRole.playbook loopingSite "/p.yml").run {}).2
    ∃ e, ((Analyzer.ofRole.playbook loopingSite "/p.yml").run st).1 = .error e ∧ e.kind = .cycle ∧
      e.Real loopingSite Analyzer.ofRole.options (Location.normalize loopingSite.cwd "/p.yml") := by
  intro st
  obtain ⟨e, hrun, hkind⟩ : ∃ e, ((Analyzer.ofRole.playbook loopingSite "/p.yml").run st).1 = .error e ∧
      e.kind = .cycle := Analysis.failureKind?_eq_some.mp (by decide +kernel)
  exact ⟨e, hrun, hkind, Analyzer.ofRole.playbook_failure_real loopingSite "/p.yml" st e hrun⟩

end RoleGraph
