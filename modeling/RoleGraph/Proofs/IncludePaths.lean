import Mathlib.Data.List.Chain
import Mathlib.Data.List.Nodup
import RoleGraph.Analysis.Run
import RoleGraph.Proofs.TaskIncludes
import RoleGraph.Proofs.Trace

/-!
# Chains of includes

One location leads to another when its task file includes a file that the variables of the play
resolve to that location. Every visit of an analysis stands at the end of such a chain, which starts
at the main task file of a role and does not pass any location twice before its end. Every failure
is raised by one visit: it closes a cycle, it is too deep, or its file is at fault.
-/

namespace RoleGraph

namespace Analysis

/-- The task file at a location includes a file, as the variables of a play resolve it. -/
def Includes (lib : Library) (opts : Options) (scope : Scope) (location file : Text) : Prop :=
  ∃ tasks, lib.tasks location = .ok tasks ∧
    ∃ target ∈ Task.includes opts.includeKeys tasks, scope.resolve target = .ok file

/-- A location leads to another by an include, under a role and the variables of a play. -/
def Leads (lib : Library) (opts : Options) (role : Text) (scope : Scope) (l l' : Text) : Prop :=
  ∃ file, Includes lib opts scope l file ∧ l' = TaskFile.location opts ⟨role, scope, file⟩

/-- What an include resolves to, as an option. -/
theorem resolve_toOption_eq_some {scope : Scope} {target file : Text} :
    (scope.resolve target).toOption = some file ↔ scope.resolve target = .ok file := by
  cases scope.resolve target <;> simp [Except.toOption]

/-- Whether a location leads to another is found by resolving its includes. -/
instance (lib : Library) (opts : Options) (role : Text) (scope : Scope) (l l' : Text) :
    Decidable (Leads lib opts role scope l l') :=
  match h : lib.tasks l with
  | .error _ => isFalse <| by
      rintro ⟨file, ⟨tasks, htasks, -⟩, -⟩
      simp [h] at htasks
  | .ok tasks => decidable_of_iff (∃ target ∈ Task.includes opts.includeKeys tasks,
      ((scope.resolve target).toOption.map fun file => TaskFile.location opts ⟨role, scope, file⟩) =
        some l') <| by
      simp only [Leads, Includes, h, Option.map_eq_some_iff, resolve_toOption_eq_some]
      constructor
      · rintro ⟨target, htarget, file, hfile, rfl⟩
        exact ⟨file, ⟨tasks, rfl, target, htarget, hfile⟩, rfl⟩
      · rintro ⟨file, ⟨tasks', htasks, target, htarget, hfile⟩, rfl⟩
        cases htasks
        exact ⟨target, htarget, file, hfile, rfl⟩

/-- Locations of which each one leads to the next, from a given one on. -/
structure PathFrom (lib : Library) (opts : Options) (role : Text) (scope : Scope) (start : Text)
    (path : List Text) : Prop where
  head : path.head? = some start
  chain : path.IsChain (Leads lib opts role scope)

/-- Whether locations form a path is found along the list. -/
instance (lib : Library) (opts : Options) (role : Text) (scope : Scope) (start : Text)
    (path : List Text) : Decidable (PathFrom lib opts role scope start path) :=
  decidable_of_iff (path.head? = some start ∧ path.IsChain (Leads lib opts role scope))
    ⟨fun ⟨head, chain⟩ => ⟨head, chain⟩, fun h => ⟨h.head, h.chain⟩⟩

/-- The location of the main task file of a role. -/
def mainLocation (opts : Options) (role : Text) : Text := taskLocation (tasksDir opts role) mainFile

/-- The playbook at a location runs a role under the variables of one of its plays. -/
def RunsRole (lib : Library) (opts : Options) (location role : Text) (scope : Scope) : Prop :=
  ∃ plays, lib.plays location = .ok plays ∧
    ∃ play ∈ plays, role ∈ rolesOf opts play ∧ play.vars = scope

/-- Whether a playbook runs a role under variables with a property is found play by play. -/
instance (lib : Library) (opts : Options) (location role : Text) (P : Scope → Prop) [DecidablePred P] :
    Decidable (∃ scope, RunsRole lib opts location role scope ∧ P scope) :=
  match h : lib.plays location with
  | .error _ => isFalse <| by
      rintro ⟨scope, ⟨plays, hplays, -⟩, -⟩
      simp [h] at hplays
  | .ok plays => decidable_of_iff (∃ play ∈ plays, role ∈ rolesOf opts play ∧ P play.vars) <| by
      constructor
      · rintro ⟨play, hplay, hrole, hP⟩
        exact ⟨play.vars, ⟨plays, h, play, hplay, hrole, rfl⟩, hP⟩
      · rintro ⟨scope, ⟨plays', hplays, play, hplay, hrole, rfl⟩, hP⟩
        obtain rfl : plays = plays' := Except.ok.inj (h.symm.trans hplays)
        exact ⟨play, hplay, hrole, hP⟩

/-- A visit under a role and variables, at the end of a path without repetitions. -/
structure Visit.OnPath (lib : Library) (opts : Options) (role : Text) (scope : Scope) (start : Text)
    (v : Visit) : Prop where
  role_eq : v.role = role
  scope_eq : v.scope = scope
  path : PathFrom lib opts role scope start (v.trail ++ [v.location opts])
  nodup : v.trail.Nodup
  length_le : v.trail.length ≤ opts.maxDepth

/-- What is wrong with a task file by itself. -/
inductive TaskFile.Faulty (lib : Library) (opts : Options) (f : TaskFile) : ExpandError → Prop where
  | load {cause : LoadError} (h : lib.tasks (f.location opts) = .error cause) :
      Faulty lib opts f (.load f.role cause)
  | task {tasks : List Task} {fault : Task.ScanFault} (h : lib.tasks (f.location opts) = .ok tasks)
      (hfault : (Task.scan opts.includeKeys tasks).fault = some fault) :
      Faulty lib opts f (.task f.role (f.location opts) fault.index fault.fault)
  | unresolved {tasks : List Task} {target : Text} {cause : ResolveError}
      (h : lib.tasks (f.location opts) = .ok tasks)
      (htarget : target ∈ Task.includes opts.includeKeys tasks)
      (hcause : f.scope.resolve target = .error cause) :
      Faulty lib opts f (.unresolved f.role (f.location opts) cause)

/-- Why a visit fails by itself. -/
inductive Visit.Raises (lib : Library) (opts : Options) (v : Visit) : ExpandError → Prop where
  | cycle (h : v.location opts ∈ v.trail) :
      Raises lib opts v (.cycle v.role (v.trail ++ [v.location opts]))
  | tooDeep (h : v.location opts ∉ v.trail) (hdepth : v.trail.length = opts.maxDepth) :
      Raises lib opts v (.tooDeep v.role (v.location opts) opts.maxDepth)
  | faulty {e : ExpandError} (h : v.toTaskFile.Faulty lib opts e) : Raises lib opts v e

section Paths

variable {lib : Library} {opts : Options} {role : Text} {scope : Scope} {start last next : Text}
  {trail path : List Text}

/-- A path that ends at a location goes on with every path from there. -/
theorem PathFrom.append (h : PathFrom lib opts role scope start (trail ++ [last]))
    (hpath : PathFrom lib opts role scope last path) :
    PathFrom lib opts role scope start (trail ++ path) := by
  obtain ⟨rest, rfl⟩ : ∃ rest, path = last :: rest := List.head?_eq_some_iff.mp hpath.head
  have hsplit : trail ++ last :: rest = trail ++ [last] ++ rest := by simp
  refine ⟨?_, ?_⟩
  · rw [hsplit, List.head?_append, h.head]
    rfl
  · rw [List.isChain_split]
    exact ⟨h.chain, hpath.chain⟩

/-- A path goes on with every location that its last one leads to. -/
theorem PathFrom.snoc (h : PathFrom lib opts role scope start (trail ++ [last]))
    (hnext : Leads lib opts role scope last next) :
    PathFrom lib opts role scope start (trail ++ [last] ++ [next]) := by
  have hstep : PathFrom lib opts role scope last [last, next] := ⟨rfl, List.isChain_pair.mpr hnext⟩
  rw [List.append_assoc]
  exact h.append hstep

end Paths

section Files

variable {lib : Library} {opts : Options} {f : TaskFile} {child : Text → Progress → Trace ExpandError}
  {p : Progress}

/-- The visits inside a task file are those to the files it includes. -/
theorem mem_visits_traceBody {v : Visit} (hv : v ∈ (traceBody lib opts f child p).visits) :
    ∃ file q, Includes lib opts f.scope (f.location opts) file ∧ v ∈ (child file q).visits := by
  unfold traceBody at hv
  split at hv
  · simp at hv
  · rename_i tasks htasks
    rcases Trace.mem_visits_andThen hv with hv | hv
    · obtain ⟨target, htarget, q, hv⟩ := Trace.mem_visits_each hv
      unfold traceInclude at hv
      split at hv
      · simp at hv
      · rename_i file hfile
        have hmem := Task.mem_includes_of_mem_targets htarget
        rcases Trace.mem_visits_andThen hv with hv | hv
        · exact ⟨file, q, ⟨tasks, htasks, target, hmem, hfile⟩, hv⟩
        · simp at hv
    · unfold traceEnd at hv
      split at hv <;> simp at hv

/-- What fails inside a task file is the file itself or a file that it includes. -/
theorem traceBody_failure {e : ExpandError} (h : (traceBody lib opts f child p).failure = some e) :
    f.Faulty lib opts e ∨ ∃ file q, Includes lib opts f.scope (f.location opts) file ∧
      (child file q).failure = some e ∧ (child file q).visits ⊆ (traceBody lib opts f child p).visits := by
  cases htasks : lib.tasks (f.location opts) with
  | error cause =>
    simp only [traceBody, htasks, Option.some.injEq] at h
    subst h
    exact Or.inl (.load htasks)
  | ok tasks =>
    rw [traceBody_loaded htasks] at h ⊢
    rcases Trace.andThen_failure_eq_some h with h | ⟨h, -⟩
    · obtain ⟨target, htarget, q, hfail, hvisits⟩ := Trace.each_failure_eq_some h
      have hmem := Task.mem_includes_of_mem_targets htarget
      cases hresolve : f.scope.resolve target with
      | error cause =>
        simp only [traceInclude, hresolve, Option.some.injEq] at hfail
        subst hfail
        exact Or.inl (.unresolved htasks hmem hresolve)
      | ok file =>
        rw [traceInclude_resolved hresolve] at hfail hvisits
        rcases Trace.andThen_failure_eq_some hfail with hfail | ⟨hfail, -⟩
        · have hinner := List.Subset.trans (Trace.visits_subset_andThen _ _) hvisits
          exact Or.inr ⟨file, q, ⟨tasks, htasks, target, hmem, hresolve⟩, hfail,
            List.Subset.trans hinner (Trace.visits_subset_andThen _ _)⟩
        · simp at hfail
    · unfold traceEnd at h
      split at h
      · rename_i fault hfault
        cases h
        exact Or.inl (.task htasks hfault)
      · simp at h

end Files

variable {lib : Library} {opts : Options} {role : Text} {scope : Scope} {start : Text}

/-- A visit from a task file on is the one to the file, or one from a file that it includes on. -/
theorem mem_visits_traceFile {room : ℕ} {trail : List Text} {file : Text} {p : Progress} {v : Visit}
    (hv : v ∈ (traceFile lib opts role scope room trail file p).visits) :
    let f : TaskFile := ⟨role, scope, file⟩
    v = f.visit opts trail p ∨ ∃ left next q, room = left + 1 ∧ f.location opts ∉ trail ∧
      Includes lib opts scope (f.location opts) next ∧
      v ∈ (traceFile lib opts role scope left (trail ++ [f.location opts]) next q).visits := by
  intro f
  cases room with
  | zero =>
    rw [traceFile] at hv
    dsimp only [Trace.visiting] at hv
    split_ifs at hv
    · exact Or.inl (List.mem_singleton.mp hv)
    · exact Or.inl (List.mem_singleton.mp hv)
  | succ left =>
    rw [traceFile] at hv
    dsimp only [Trace.visiting] at hv
    rcases List.mem_cons.mp hv with hv | hv
    · exact Or.inl hv
    · split_ifs at hv with hcycle hknown
      · simp at hv
      · simp at hv
      · obtain ⟨next, q, hnext, hv⟩ := mem_visits_traceBody hv
        exact Or.inr ⟨left, next, q, rfl, hcycle, hnext, hv⟩

/-- Every visit from the end of a path on stands at the end of a path. -/
theorem traceFile_visits_onPath {room : ℕ} {trail : List Text} {file : Text} {p : Progress} {v : Visit}
    (hpath : PathFrom lib opts role scope start (trail ++ [TaskFile.location opts ⟨role, scope, file⟩]))
    (hnodup : trail.Nodup) (hroom : trail.length + room = opts.maxDepth)
    (hv : v ∈ (traceFile lib opts role scope room trail file p).visits) :
    v.OnPath lib opts role scope start := by
  induction room generalizing trail file p with
  | zero =>
    rcases mem_visits_traceFile hv with rfl | ⟨left, _, _, hleft, -⟩
    · exact ⟨rfl, rfl, hpath, hnodup, by simp only [TaskFile.visit]; omega⟩
    · omega
  | succ room ih =>
    rcases mem_visits_traceFile hv with rfl | ⟨left, next, q, hleft, hcycle, hnext, hv⟩
    · exact ⟨rfl, rfl, hpath, hnodup, by simp only [TaskFile.visit]; omega⟩
    · obtain rfl : room = left := by omega
      refine ih (hpath.snoc ⟨next, hnext, rfl⟩) ?_ ?_ hv
      · rw [← List.concat_eq_append]
        exact List.Nodup.concat hcycle hnodup
      · rw [List.length_append, List.length_singleton]
        omega

/-- Every failure is raised by a visit. -/
theorem traceFile_failure_raised {room : ℕ} {trail : List Text} {file : Text} {p : Progress}
    {e : ExpandError} (hroom : trail.length + room = opts.maxDepth)
    (h : (traceFile lib opts role scope room trail file p).failure = some e) :
    ∃ v ∈ (traceFile lib opts role scope room trail file p).visits, v.Raises lib opts e := by
  induction room generalizing trail file p with
  | zero =>
    rw [traceFile] at h ⊢
    dsimp only [Trace.visiting] at h ⊢
    refine ⟨TaskFile.visit ⟨role, scope, file⟩ opts trail p, List.mem_cons_self, ?_⟩
    split_ifs at h with hcycle
    · cases h
      exact .cycle hcycle
    · cases h
      exact .tooDeep hcycle hroom
  | succ room ih =>
    rw [traceFile] at h ⊢
    dsimp only [Trace.visiting] at h ⊢
    split_ifs at h ⊢ with hcycle hknown
    · cases h
      exact ⟨_, List.mem_cons_self, .cycle hcycle⟩
    · rcases traceBody_failure h with hfault | ⟨next, q, -, hnext, hvisits⟩
      · exact ⟨_, List.mem_cons_self, .faulty hfault⟩
      · obtain ⟨v, hv, hraises⟩ := ih (by rw [List.length_append, List.length_singleton]; omega) hnext
        exact ⟨v, List.mem_cons_of_mem _ (hvisits hv), hraises⟩

/-- The visits of a role are those from its main task file on. -/
theorem mem_visits_traceRole {caller : Node} {p : Progress} {v : Visit}
    (hv : v ∈ (traceRole lib opts caller scope role p).visits) :
    v ∈ (traceFile lib opts role scope opts.maxDepth [] mainFile p).visits := by
  unfold traceRole at hv
  split at hv
  · simp at hv
  · simp at hv
  · rcases Trace.mem_visits_andThen hv with hv | hv
    · exact hv
    · simp at hv

/-- The visits from the main task file of a role on stand on paths from it. -/
theorem mainFile_visits_onPath {p : Progress} {v : Visit}
    (hv : v ∈ (traceFile lib opts role scope opts.maxDepth [] mainFile p).visits) :
    v.OnPath lib opts role scope (mainLocation opts role) := by
  have hstart : PathFrom lib opts role scope (mainLocation opts role)
      ([] ++ [TaskFile.location opts ⟨role, scope, mainFile⟩]) := ⟨rfl, List.isChain_singleton _⟩
  exact traceFile_visits_onPath hstart List.nodup_nil (by simp) hv

/-- The roles that plays run are those of the plays. -/
theorem mem_roleRefs {index : ℕ} {plays : List Play} {role : Text} {scope : Scope} :
    (∃ ref ∈ roleRefs opts index plays, ref.role = role ∧ ref.scope = scope) ↔
      ∃ play ∈ plays, role ∈ rolesOf opts play ∧ play.vars = scope := by
  have hplays : plays = (plays.zipIdx index).map Prod.fst := by simp
  constructor
  · rintro ⟨ref, href, rfl, rfl⟩
    obtain ⟨⟨play, i⟩, hplay, href⟩ := List.mem_flatMap.mp href
    obtain ⟨role, hrole, rfl⟩ := List.mem_map.mp href
    refine ⟨play, ?_, hrole, rfl⟩
    rw [hplays]
    exact List.mem_map.mpr ⟨(play, i), hplay, rfl⟩
  · rintro ⟨play, hplay, hrole, rfl⟩
    rw [hplays] at hplay
    obtain ⟨⟨play, i⟩, hpair, rfl⟩ := List.mem_map.mp hplay
    exact ⟨⟨play.displayName i, role, play.vars⟩,
      List.mem_flatMap.mpr ⟨(play, i), hpair, List.mem_map.mpr ⟨role, hrole, rfl⟩⟩, rfl, rfl⟩

/-- A role that a playbook runs is among those of its plays, once they are loaded. -/
theorem RunsRole.exists_ref {location : Text} {plays : List Play} (hplays : lib.plays location = .ok plays)
    (h : RunsRole lib opts location role scope) :
    ∃ ref ∈ roleRefs opts 0 plays, ref.role = role ∧ ref.scope = scope := by
  obtain ⟨plays', hplays', hplay⟩ := h
  obtain rfl : plays = plays' := Except.ok.inj (hplays.symm.trans hplays')
  exact mem_roleRefs.mpr hplay

/-- The visits of a playbook are those from the main task files of the roles that it runs on. -/
theorem mem_visits_tracePlaybook {location : Text} {p : Progress} {v : Visit}
    (hv : v ∈ (tracePlaybook lib opts location p).visits) :
    ∃ role scope q, RunsRole lib opts location role scope ∧
      v ∈ (traceFile lib opts role scope opts.maxDepth [] mainFile q).visits := by
  unfold tracePlaybook at hv
  split at hv
  · simp at hv
  · rename_i plays hplays
    obtain ⟨ref, href, q, hv⟩ := Trace.mem_visits_each hv
    exact ⟨ref.role, ref.scope, q, ⟨plays, hplays, mem_roleRefs.mp ⟨ref, href, rfl, rfl⟩⟩,
      mem_visits_traceRole hv⟩

end Analysis

/-- A site with some playbooks and one role, `r`, that has some task files. -/
def Site.ofRole (playbooks tasks : List (Text × Text)) : Site :=
  let files (named : List (Text × Text)) : List (Text × Tree) :=
    named.map fun (name, content) => (name, .file content)
  { tree := .directory (("roles", .directory [("r", .directory [("tasks", .directory (files tasks))])]) ::
      files playbooks) }

/-- An analyzer for the role of such a site. -/
def Analyzer.ofRole : Analyzer := { options := { rolesDir := "/roles" } }

end RoleGraph
