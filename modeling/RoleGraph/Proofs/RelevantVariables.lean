import RoleGraph.Proofs.Correspondence
import RoleGraph.Proofs.Failures
import RoleGraph.Proofs.TaskIncludes

/-!
# Which variables matter

The variables of a play reach an analysis in two ways: a dynamic include looks one of them up, and the
memo keeps the fingerprint of all. Scopes that give the same values to the variables that the dynamic
includes of some files name resolve every include of these files alike, and the fingerprints only tell
their entries apart. So runs from one graph and an empty memo find the same graph under both scopes
and end alike; where both fail for lack of a variable, only the scopes that they report differ.
-/

namespace RoleGraph

/-- The variable that an include names: the second word of a dynamic include. -/
def includeVariable? (value : Text) : Option Text :=
  if Text.has templateMark value then (Text.words value)[1]? else none

/-- The same failure, reported under another scope. -/
def ResolveError.under (s : Scope) : ResolveError → ResolveError
  | .missing name _ => .missing name s
  | e => e

/-- The scope that is reported does not change the kind of a failure. -/
theorem ResolveError.kind_under (s : Scope) (e : ResolveError) : (e.under s).kind = e.kind := by
  cases e with
  | malformed value => rfl
  | missing name scope => rfl

/-- An include is resolved alike under scopes that agree on its variable. -/
theorem Scope.resolve_congr {s₁ s₂ : Scope} {value : Text}
    (h : ∀ name, includeVariable? value = some name → s₁.lookup name = s₂.lookup name) :
    s₂.resolve value = (s₁.resolve value).mapError (ResolveError.under s₂) := by
  cases hmark : Text.has templateMark value with
  | false =>
    simp only [resolve, hmark]
    rfl
  | true =>
    rw [includeVariable?, if_pos hmark] at h
    simp only [resolve, hmark]
    match hwords : Text.words value with
    | [] => rfl
    | [_] => rfl
    | first :: name :: rest =>
      rw [hwords] at h
      have hlookup := h name rfl
      simp only [← hlookup]
      cases s₁.lookup name with
      | some text => rfl
      | none => rfl

namespace Tree

/-- A file that stands at a place is among the files. -/
theorem mem_files_of_find? {t : Tree} {place : List Text} {content : Text}
    (h : t.find? place = some (.file content)) : (place, content) ∈ t.files := by
  induction place generalizing t with
  | nil =>
    obtain rfl : t = .file content := Option.some.inj h
    exact List.mem_singleton_self _
  | cons name rest ih =>
    cases t with
    | file _ => contradiction
    | directory cs =>
      rw [find?] at h
      dsimp only [children] at h
      rw [files]
      -- The entry that is found first is one of all entries.
      induction cs with
      | nil => contradiction
      | cons c cs ihcs =>
        obtain ⟨n, child⟩ := c
        rw [childFiles, List.mem_append]
        by_cases hn : name = n
        · subst hn
          left
          rw [List.lookup_cons_self] at h
          exact List.mem_map.mpr ⟨_, ih h, rfl⟩
        · right
          have hne : (name == n) = false := by simpa using hn
          simp only [List.lookup_cons, hne] at h
          exact ihcs h

end Tree

namespace Site

/-- The variables that the dynamic includes of all files name. -/
def includeVariables (keys : List Text) (s : Site) : List Text :=
  s.tree.files.flatMap fun (_, content) =>
    match Task.ofText content with
    | .ok tasks => (Task.includes keys tasks).filterMap includeVariable?
    | .error _ => []

/-- A text that loads is the content of the file at its location. -/
theorem find?_of_load {s : Site} {location content : Text} (h : s.load location = .ok content) :
    s.find? (s.pathOf location) = some (.file content) := by
  unfold load at h
  split at h
  · contradiction
  · contradiction
  · unfold read at h
    dsimp only at h
    split at h
    · contradiction
    · rename_i hread
      split at hread
      · rename_i hfind
        cases hread
        cases h
        exact hfind
      · contradiction

/-- The tasks at a location are those of a file. -/
theorem exists_file_of_tasks {s : Site} {location : Text} {tasks : List Task}
    (h : s.library.tasks location = .ok tasks) :
    ∃ place content, (place, content) ∈ s.tree.files ∧ Task.ofText content = .ok tasks := by
  rw [library_tasks] at h
  cases hload : s.load location with
  | error cause =>
    rw [hload] at h
    contradiction
  | ok content =>
    rw [hload] at h
    have htasks : tasksOf location content = .ok tasks := h
    refine ⟨Location.segments (s.pathOf location), content, Tree.mem_files_of_find? (find?_of_load hload), ?_⟩
    unfold tasksOf at htasks
    split at htasks
    · cases htasks
      assumption
    · contradiction

/-- Scopes that agree on the variables that the files name read the same files alike. -/
theorem sameFiles_of_agree {s : Site} {keys : List Text} {s₁ s₂ : Scope}
    (h : ∀ name ∈ s.includeVariables keys, s₁.lookup name = s₂.lookup name) :
    Analysis.SameFiles keys s₁ s₂ (ResolveError.under s₂) s.library s.library where
  holds _ := rfl
  tasks location := by
    cases htasks : s.library.tasks location with
    | error e => exact .error e
    | ok tasks =>
      refine .ok ⟨rfl, List.forall₂_same.mpr fun target htarget => Scope.resolve_congr fun name hname => ?_⟩
      obtain ⟨place, content, hfile, hcontent⟩ := exists_file_of_tasks htasks
      refine h name (List.mem_flatMap.mpr ⟨(place, content), hfile, ?_⟩)
      simp only [hcontent]
      exact List.mem_filterMap.mpr ⟨target, Task.mem_includes_of_mem_targets htarget, hname⟩

end Site

namespace Analysis

/-- The reason why an include cannot be resolved does not change the kind of a failure when it keeps
its own kind. -/
theorem RoleError.kind_mapUnresolved {w : ResolveError → ResolveError} (h : ∀ e, (w e).kind = e.kind)
    (e : RoleError) : (e.mapUnresolved w).kind = e.kind := by
  cases e with
  | unchecked role dir cause => rfl
  | noTasks role dir => rfl
  | expand cause =>
    cases cause with
    | unresolved role location cause => exact h cause
    | cycle role chain => rfl
    | tooDeep role location limit => rfl
    | load role cause => rfl
    | task role location index fault => rfl
    | edge cause => rfl

/-- Variables that no include names do not influence the graph. From the same graph and without a memo,
a role is followed to the same graph under scopes that agree on the variables that includes name, and
it succeeds under both or fails under both with a failure of one kind. -/
theorem followRole_relevant_variables (s : Site) (opts : Options) (caller : Node) (role : Text)
    (s₁ s₂ : Scope) (hagree : ∀ name ∈ s.includeVariables opts.includeKeys, s₁.lookup name = s₂.lookup name)
    (st₁ st₂ : State) (hgraph : st₂.graph = st₁.graph) (hmemo₁ : st₁.expanded = []) (hmemo₂ : st₂.expanded = []) :
    let run₁ := (followRole s.library opts caller s₁ role).run st₁
    let run₂ := (followRole s.library opts caller s₂ role).run st₂
    run₂.2.graph = run₁.2.graph ∧ run₂.1.mapError RoleError.kind = run₁.1.mapError RoleError.kind := by
  intro run₁ run₂
  have hstart : st₂.progress = st₁.progress.renamed (exchange s₁ s₂) := by
    simp only [State.progress, Progress.renamed, hgraph, hmemo₁, hmemo₂, List.map_nil]
  obtain ⟨hresult, hprogress⟩ := followRole_corresponds (Site.sameFiles_of_agree hagree) caller role hstart
  constructor
  · exact congrArg Progress.graph hprogress
  · change run₂.1 = run₁.1.mapError _ at hresult
    rw [hresult]
    cases run₁.1 with
    | ok done => rfl
    | error e => exact congrArg Except.error (RoleError.kind_mapUnresolved (ResolveError.kind_under s₂) e)

/-- A role whose only dynamic include names the variable `file`. -/
def oneVariableSite : Site := .ofRole []
  [("main.yml", "- include_tasks: '\x7b\x7b file \x7d\x7d'\n- include_tasks: b.yml\n"),
    ("a.yml", "- include_tasks: b.yml\n"), ("b.yml", "- debug: msg=x\n")]

/-- A colour among the variables changes nothing in the graph. -/
theorem followRole_relevant_variables_colour :
    let plain : Scope := ⟨[("file", .scalar (.str "a.yml"))]⟩
    let coloured : Scope := ⟨[("colour", .scalar (.str "red")), ("file", .scalar (.str "a.yml"))]⟩
    let caller : Node := .playbook "/p.yml"
    let st : State := { graph := Graph.addNode {} caller }
    let run₁ := (followRole oneVariableSite.library Analyzer.ofRole.options caller plain "r").run st
    let run₂ := (followRole oneVariableSite.library Analyzer.ofRole.options caller coloured "r").run st
    run₁.1.isOk = true ∧
      run₁.2.graph.ids = ["playbook/p.yml", "role/r/b.yml", "role/r/a.yml", "role/r/main.yml"] ∧
      run₂.2.graph = run₁.2.graph ∧ run₂.1.mapError RoleError.kind = run₁.1.mapError RoleError.kind := by
  intro plain coloured caller st run₁ run₂
  obtain ⟨hagree, hok, hids⟩ :
      (∀ name ∈ oneVariableSite.includeVariables Analyzer.ofRole.options.includeKeys,
        plain.lookup name = coloured.lookup name) ∧ run₁.1.isOk = true ∧
        run₁.2.graph.ids = ["playbook/p.yml", "role/r/b.yml", "role/r/a.yml", "role/r/main.yml"] := by
    decide +kernel
  refine ⟨hok, hids, ?_⟩
  dsimp only [run₁, run₂]
  exact followRole_relevant_variables oneVariableSite Analyzer.ofRole.options caller "r" plain coloured hagree
    st st rfl rfl rfl

end Analysis

end RoleGraph
