import RoleGraph.Analysis.Run
import RoleGraph.Proofs.Completion
import RoleGraph.Proofs.Failures

/-!
# The limit on chains of includes

The limit is checked against the trail of a visit, and a file that the memo has is not followed
again. A file that was first followed close to the main task file can therefore be met again further
down, where the chains below it are too long and nothing measures them. That is the only way around
the limit: a playbook that succeeds keeps it on all chains exactly when every visit to a file that
the memo had leaves room for the chains below that file. Which visits these are depends on the order
of the includes.
-/

namespace RoleGraph

namespace Analysis

variable {lib : Library} {opts : Options} {location : Text} {p : Progress}

/-- No chain of includes from the main task file of a role of the playbook passes the limit. -/
def KeepsLimit (lib : Library) (opts : Options) (location : Text) : Prop :=
  ∀ role scope, RunsRole lib opts location role scope →
    ∀ path, PathFrom lib opts role scope (mainLocation opts role) path → path.length ≤ opts.maxDepth

/-- Together with its trail, no chain of includes below a visit passes the limit. -/
def Visit.LeavesRoom (lib : Library) (opts : Options) (v : Visit) : Prop :=
  ∀ path, PathFrom lib opts v.role v.scope (v.location opts) path →
    v.trail.length + path.length ≤ opts.maxDepth

/-- A visit leaves room when the chains from the main task file keep the limit. -/
theorem KeepsLimit.leavesRoom (h : KeepsLimit lib opts location) {v : Visit}
    (hv : v ∈ (tracePlaybook lib opts location p).visits) : v.LeavesRoom lib opts := by
  obtain ⟨role, scope, q, hruns, hv⟩ := mem_visits_tracePlaybook hv
  have hon := mainFile_visits_onPath hv
  intro path hpath
  rw [hon.role_eq, hon.scope_eq] at hpath
  have hlength := h role scope hruns _ (hon.path.append hpath)
  rwa [List.length_append] at hlength

/-- When the visits to files of the memo leave room, every visit of a success does. -/
theorem leavesRoom_of_known (h : (tracePlaybook lib opts location p).failure = none)
    (hknown : ∀ v ∈ (tracePlaybook lib opts location p).visits, v.known = true → v.LeavesRoom lib opts) :
    ∀ v ∈ (tracePlaybook lib opts location p).visits, v.LeavesRoom lib opts := by
  intro v hv path hpath
  -- Along the path, from visit to visit, until one of them is known or the path ends.
  induction path generalizing v with
  | nil => cases hpath.head
  | cons l rest ih =>
    have hpass := tracePlaybook_visits_pass h v hv
    cases hmemo : v.known with
    | true => exact hknown v hv hmemo _ hpath
    | false =>
      cases rest with
      | nil =>
        have hwithin := hpass.within
        rw [List.length_singleton]
        omega
      | cons l' rest =>
        obtain rfl : l = v.location opts := Option.some.inj hpath.head
        obtain ⟨⟨file, hfile, rfl⟩, hchain⟩ := List.isChain_cons_cons.mp hpath.chain
        obtain ⟨w, hw, hwfile, hwtrail⟩ := hpass.below hmemo file hfile
        have hwpath : PathFrom lib opts w.role w.scope (w.location opts)
            (TaskFile.location opts ⟨v.role, v.scope, file⟩ :: rest) := by
          rw [show w.role = v.role by rw [hwfile], show w.scope = v.scope by rw [hwfile],
            show w.location opts = TaskFile.location opts ⟨v.role, v.scope, file⟩ by rw [hwfile]]
          exact ⟨rfl, hchain⟩
        have hlength := ih w hw hwpath
        rw [hwtrail, List.length_append, List.length_singleton] at hlength
        rw [List.length_cons]
        omega

/-- The chains from the main task files keep the limit when every visit of a success leaves room. -/
theorem keepsLimit_of_leavesRoom (h : (tracePlaybook lib opts location p).failure = none)
    (hroom : ∀ v ∈ (tracePlaybook lib opts location p).visits, v.LeavesRoom lib opts) :
    KeepsLimit lib opts location := by
  intro role scope hruns path hpath
  obtain ⟨-, ⟨f, trail, known⟩, hv, rfl, rfl⟩ := tracePlaybook_visits_main h hruns
  have hlength := hroom _ hv path hpath
  rwa [List.length_nil, Nat.zero_add] at hlength

end Analysis

/-- A playbook that succeeds keeps the limit on all chains of includes exactly when every visit to a
file that the memo had leaves room for the chains below. -/
theorem Analyzer.playbook_keepsLimit_iff (a : Analyzer) (s : Site) (location : Text) (st : Analysis.State)
    (h : ((a.playbook s location).run st).1 = .ok ()) :
    Analysis.KeepsLimit s.library a.options (Location.normalize s.cwd location) ↔
      ∀ v ∈ (Analysis.tracePlaybook s.library a.options (Location.normalize s.cwd location)
        st.progress).visits, v.known = true → v.LeavesRoom s.library a.options := by
  have hmirror := Analysis.mirrors_followPlaybook s.library a.options (Location.normalize s.cwd location) st
  have hdone := hmirror.success.mp h
  constructor
  · intro hlimit v hv _
    exact hlimit.leavesRoom hv
  · intro hknown
    exact Analysis.keepsLimit_of_leavesRoom hdone (Analysis.leavesRoom_of_known hdone hknown)

/-- A site whose role includes two files, of which `b.yml` includes `a.yml` and that one `c.yml`. -/
def sharingSite (first second : Text) : Site := .ofRole
  [("p.yml", "- roles: [r]\n")]
  [("main.yml", "- include_tasks: " ++ first ++ "\n- include_tasks: " ++ second ++ "\n"),
   ("a.yml", "- include_tasks: c.yml\n"),
   ("b.yml", "- include_tasks: a.yml\n"),
   ("c.yml", "")]

/-- An analyzer that allows chains of three files. -/
def threeDeep : Analyzer := { options := { rolesDir := "/roles", maxDepth := 3 } }

/-- With `a.yml` first the sharing site succeeds. -/
theorem sharingSite_succeeds : ((threeDeep.playbook (sharingSite "a.yml" "b.yml") "/p.yml").run {}).1 = .ok () :=
  Analysis.eq_ok_of_isOk (by decide +kernel)

/-- The sharing site has a chain of four files. -/
theorem sharingSite_not_keepsLimit : ¬ Analysis.KeepsLimit (sharingSite "a.yml" "b.yml").library threeDeep.options
    (Location.normalize (sharingSite "a.yml" "b.yml").cwd "/p.yml") := by
  intro h
  obtain ⟨scope, hruns, hpath⟩ : ∃ scope, Analysis.RunsRole (sharingSite "a.yml" "b.yml").library
      threeDeep.options (Location.normalize (sharingSite "a.yml" "b.yml").cwd "/p.yml") "r" scope ∧
      Analysis.PathFrom (sharingSite "a.yml" "b.yml").library threeDeep.options "r" scope
        (Analysis.mainLocation threeDeep.options "r")
        ["/roles/r/tasks/main.yml", "/roles/r/tasks/b.yml", "/roles/r/tasks/a.yml", "/roles/r/tasks/c.yml"] := by
    decide +kernel
  exact absurd (h "r" scope hruns _ hpath) (by decide)

/-- On the sharing site a visit to a file of the memo leaves no room. -/
theorem Analyzer.playbook_keepsLimit_iff_sharing :
    ((threeDeep.playbook (sharingSite "a.yml" "b.yml") "/p.yml").run {}).1 = .ok () ∧
      ¬ ∀ v ∈ (Analysis.tracePlaybook (sharingSite "a.yml" "b.yml").library threeDeep.options
        (Location.normalize (sharingSite "a.yml" "b.yml").cwd "/p.yml") {}).visits,
          v.known = true → v.LeavesRoom (sharingSite "a.yml" "b.yml").library threeDeep.options := by
  refine ⟨sharingSite_succeeds, fun h => sharingSite_not_keepsLimit ?_⟩
  exact (threeDeep.playbook_keepsLimit_iff _ "/p.yml" {} sharingSite_succeeds).mpr h

/-- A playbook can succeed although a chain is longer than the limit, and fails because of that chain
when a file lists the same includes in another order. -/
theorem Analyzer.playbook_limit_depends_on_order :
    ((threeDeep.playbook (sharingSite "a.yml" "b.yml") "/p.yml").run {}).1 = .ok () ∧
      ¬ Analysis.KeepsLimit (sharingSite "a.yml" "b.yml").library threeDeep.options
        (Location.normalize (sharingSite "a.yml" "b.yml").cwd "/p.yml") ∧
      ∃ e, ((threeDeep.playbook (sharingSite "b.yml" "a.yml") "/p.yml").run {}).1 = .error e ∧
        e.kind = .tooDeep := by
  refine ⟨sharingSite_succeeds, sharingSite_not_keepsLimit, ?_⟩
  exact Analysis.failureKind?_eq_some.mp (by decide +kernel)

end RoleGraph
