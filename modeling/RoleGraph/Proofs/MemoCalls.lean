import RoleGraph.Proofs.HistoryIndependence
import RoleGraph.Proofs.SharedGraph

/-!
# Entries of the memo have their calls in the graph

A task file gets its entry after its last include was followed, when the calls to everything that it
includes are in the graph. A run that stops inside a file leaves some of its calls without an entry,
but never an entry without its calls, and later runs take no edge away. So the memo is closed after
every history: the file of an entry is sound, its includes resolve to files with entries, and the
graph has an edge for each of them.

An entry is a location and a fingerprint. It speaks of one node only as long as a location is visited
under one role and one base name.
-/

namespace RoleGraph

namespace Graph

variable {g g' : Graph} {source target : Node}

/-- Two nodes are known, and an edge joins what is stored under their identifiers. -/
structure Joins (g : Graph) (source target : Node) : Prop where
  source_known : source.id ∈ g.ids
  target_known : target.id ∈ g.ids
  edge : ⟨g.stored source, g.stored target⟩ ∈ g.edges

/-- A continued graph knows what it knew. -/
theorem Continues.ids_subset (h : g.Continues g') : g.ids ⊆ g'.ids := by
  obtain ⟨rest, hrest⟩ := h.nodes_prefix
  rw [Store.ids, Store.ids, ← hrest, List.map_append]
  exact List.subset_append_left _ _

/-- A continued graph stores for a known node what it stored. -/
theorem Continues.stored_eq {n : Node} (h : g.Continues g') (hn : n.id ∈ g.ids) :
    g'.stored n = g.stored n := by
  obtain ⟨rest, hrest⟩ := h.nodes_prefix
  have hfind : g'.find? n.id = some (g.stored n) := by
    have hknown := find?_eq_stored hn
    rw [find?_eq] at hknown
    rw [find?_eq, ← hrest, List.find?_append, hknown, Option.some_or]
  rw [Store.stored, hfind, Option.getD_some]

/-- Nodes that are joined stay so. -/
theorem Joins.mono (hjoins : g.Joins source target) (h : g.Continues g') : g'.Joins source target := by
  refine ⟨h.ids_subset hjoins.source_known, h.ids_subset hjoins.target_known, ?_⟩
  rw [h.stored_eq hjoins.source_known, h.stored_eq hjoins.target_known]
  exact h.edges_prefix.subset hjoins.edge

/-- Whether nodes are joined depends on their identifiers alone. -/
theorem Joins.congr {source' target' : Node} (h : g.Joins source target)
    (hsource : source.id = source'.id) (htarget : target.id = target'.id) : g.Joins source' target' := by
  refine ⟨hsource ▸ h.source_known, htarget ▸ h.target_known, ?_⟩
  rw [← stored_congr hsource h.source_known, ← stored_congr htarget h.target_known]
  exact h.edge

/-- A link joins its nodes. -/
theorem joins_link (g : Graph) (source target : Node) : (g.link source target).Joins source target := by
  refine ⟨by simp, by simp, ?_⟩
  rw [link, stored_join, stored_join]
  exact List.mem_append_right _ (List.mem_singleton_self _)

end Graph

namespace Analysis

variable {lib : Library} {opts : Options} {role : Text} {scope : Scope} {room left : ℕ}
  {trail : List Text} {file location target : Text} {source : Node} {p : Progress} {V : List Visit}

/-- The graph has the calls of a task file to everything that it includes. -/
def TaskFile.Wired (lib : Library) (opts : Options) (f : TaskFile) (g : Graph) : Prop :=
  ∀ file, Includes lib opts f.scope (f.location opts) file →
    g.Joins (.task f.role f.file) (.task f.role file)

/-- Every entry of the memo was made by a visit to a file whose calls are in the graph. -/
def Wired (lib : Library) (opts : Options) (V : List Visit) (p : Progress) : Prop :=
  ∀ key ∈ p.expanded, ∃ v ∈ V, v.key opts = key ∧ v.toTaskFile.Wired lib opts p.graph

/-- The calls of a task file stay in the graph. -/
theorem TaskFile.Wired.mono {f : TaskFile} {g g' : Graph} (hf : f.Wired lib opts g) (h : g.Continues g') :
    f.Wired lib opts g' := fun file hfile => (hf file hfile).mono h

/-- More calls and no more entries keep a memo wired. -/
theorem Wired.mono {q : Progress} (h : Wired lib opts V p) (hgraph : p.graph.Continues q.graph)
    (hmemo : q.expanded = p.expanded) : Wired lib opts V q := by
  intro key hkey
  rw [hmemo] at hkey
  obtain ⟨v, hv, heq, hwired⟩ := h key hkey
  exact ⟨v, hv, heq, hwired.mono hgraph⟩

/-- A link keeps a memo wired. -/
theorem Wired.link (h : Wired lib opts V p) (source target : Node) :
    Wired lib opts V (p.link source target) := h.mono (Graph.continues_link _ _ _) rfl

/-- A new entry for a visited file whose calls are in the graph keeps a memo wired. -/
theorem Wired.mark (h : Wired lib opts V p) {v : Visit} (hv : v ∈ V)
    (hwired : v.toTaskFile.Wired lib opts p.graph) : Wired lib opts V (p.mark (v.key opts)) := by
  intro key hkey
  rcases List.mem_cons.mp hkey with rfl | hkey
  · exact ⟨v, hv, rfl, hwired⟩
  · exact h key hkey

/-- Nothing is taken from a graph by following a task file. -/
theorem continues_traceFile {g : Graph} (h : g.Continues p.graph) :
    g.Continues (traceFile lib opts role scope room trail file p).after.graph :=
  traceFile_preserves (P := fun q => g.Continues q.graph) lib opts role scope room trail file
    (fun _ _ _ hq => hq.trans (Graph.continues_link _ _ _)) (fun _ _ _ hq => hq) h

/-- Includes that succeed are joined to the file that includes them. -/
theorem joins_includes {f : TaskFile} (hsource : source.id = f.id)
    (h : (Trace.each (traceInclude f.role location f.scope source
      (traceFile lib opts f.role f.scope left trail)) targets p).failure = none) :
    ∀ target ∈ targets, ∃ file, f.scope.resolve target = .ok file ∧
      (Trace.each (traceInclude f.role location f.scope source
        (traceFile lib opts f.role f.scope left trail)) targets p).after.graph.Joins
          (.task f.role f.file) (.task f.role file) := by
  refine Trace.each_establishes (K := fun target q => ∃ file, f.scope.resolve target = .ok file ∧
    q.graph.Joins (.task f.role f.file) (.task f.role file)) h (List.Subset.refl _) ?_ ?_
  · intro target _ q hdone _
    obtain ⟨next, hresolve, -, heq⟩ := traceInclude_done hdone
    rw [heq]
    exact ⟨next, hresolve, (Graph.joins_link _ _ _).congr hsource (Graph.stored_id _ _)⟩
  · rintro target other - q ⟨next, hresolve, hjoins⟩
    refine ⟨next, hresolve, hjoins.mono ?_⟩
    exact traceInclude_preserves (P := fun r => q.graph.Continues r.graph)
      (fun _ _ _ hr => hr.trans (Graph.continues_link _ _ _)) (List.Subset.refl _)
      ⟨List.prefix_rfl, List.prefix_rfl⟩ fun _ _ => continues_traceFile ⟨List.prefix_rfl, List.prefix_rfl⟩

/-- The body of a visited file keeps the memo wired when the included files do. -/
theorem wired_traceBody {v : Visit} (hv : v ∈ V)
    (hchild : ∀ next q, (traceFile lib opts v.role v.scope left trail next q).visits ⊆ V →
      Wired lib opts V q → Wired lib opts V (traceFile lib opts v.role v.scope left trail next q).after)
    (hV : (traceBody lib opts v.toTaskFile (traceFile lib opts v.role v.scope left trail) p).visits ⊆ V)
    (h : Wired lib opts V p) :
    Wired lib opts V (traceBody lib opts v.toTaskFile (traceFile lib opts v.role v.scope left trail) p).after := by
  cases htasks : lib.tasks (v.location opts) with
  | error cause =>
    simp only [traceBody, htasks]
    exact h
  | ok tasks =>
    rw [traceBody_loaded htasks] at hV ⊢
    have hVeach := List.Subset.trans (Trace.visits_subset_andThen _ _) hV
    generalize hincludes : Trace.each _ _ p = includes at hV hVeach ⊢
    have hwired : Wired lib opts V includes.after := by
      rw [← hincludes] at hVeach ⊢
      refine Trace.each_preserves (P := Wired lib opts V) hVeach h fun target _ q hq hVq => ?_
      exact traceInclude_preserves (P := Wired lib opts V) (fun _ _ _ hr => hr.link _ _) hVq hq
        fun next hVnext => hchild next q hVnext hq
    cases hfail : includes.failure with
    | some e =>
      rw [Trace.andThen_failed hfail]
      exact hwired
    | none =>
      rw [Trace.andThen_done hfail]
      cases hfault : (Task.scan opts.includeKeys tasks).fault with
      | some fault => exact hwired
      | none =>
        -- The entry is made now, so every include of the file has been followed.
        refine hwired.mark hv ?_
        rintro next ⟨tasks', htasks', target, htarget, hresolve⟩
        obtain rfl : tasks = tasks' := Except.ok.inj (htasks.symm.trans htasks')
        have hmem := (Task.scan_targets_perm hfault).mem_iff.mpr htarget
        rw [← hincludes] at hfail ⊢
        obtain ⟨next', hresolve', hjoins⟩ :=
          joins_includes (f := v.toTaskFile) (Graph.stored_id _ _) hfail target hmem
        obtain rfl : next = next' := Except.ok.inj (hresolve.symm.trans hresolve')
        exact hjoins

/-- Following a task file keeps the memo wired, whether it succeeds or not. -/
theorem wired_traceFile (hV : (traceFile lib opts role scope room trail file p).visits ⊆ V)
    (h : Wired lib opts V p) : Wired lib opts V (traceFile lib opts role scope room trail file p).after := by
  induction room generalizing trail file p with
  | zero =>
    rw [traceFile]
    dsimp only [Trace.visiting]
    split_ifs
    · exact h
    · exact h
  | succ room ih =>
    rw [traceFile] at hV ⊢
    dsimp only [Trace.visiting] at hV ⊢
    split_ifs at hV ⊢ with hcycle hknown
    · exact h
    · exact h
    · obtain ⟨hv, hVbody⟩ := List.cons_subset.mp hV
      exact wired_traceBody (v := TaskFile.visit ⟨role, scope, file⟩ opts trail p) hv
        (fun next q hVq hq => ih hVq hq) hVbody h

/-- Following a role keeps the memo wired. -/
theorem wired_traceRole {caller : Node} (hV : (traceRole lib opts caller scope role p).visits ⊆ V)
    (h : Wired lib opts V p) : Wired lib opts V (traceRole lib opts caller scope role p).after := by
  unfold traceRole at hV ⊢
  split
  · exact h
  · exact h
  · rename_i hdir
    simp only [hdir] at hV
    have hVmain := List.Subset.trans (Trace.visits_subset_andThen _ _) hV
    exact Trace.andThen_preserves (P := Wired lib opts V) hV (wired_traceFile hVmain h)
      fun _ hq _ => hq.link _ _

/-- Following a playbook keeps the memo wired, whether it succeeds or not. -/
theorem wired_tracePlaybook (hV : (tracePlaybook lib opts location p).visits ⊆ V)
    (h : Wired lib opts V p) : Wired lib opts V (tracePlaybook lib opts location p).after := by
  unfold tracePlaybook at hV ⊢
  split
  · exact h
  · rename_i plays hplays
    simp only [hplays] at hV
    refine Trace.each_preserves (P := Wired lib opts V) hV (h.mono (Graph.continues_addNode _ _) rfl) ?_
    intro ref _ q hq hVq
    exact wired_traceRole hVq hq

/-- A task file was followed to its end: it loads, its scan has no fault, and each include that the
scan finds resolves to a file with an entry and an edge from the node of the file. -/
structure TaskFile.Closed (lib : Library) (opts : Options) (f : TaskFile) (p : Progress) (tasks : List Task) :
    Prop where
  loads : lib.tasks (f.location opts) = .ok tasks
  faultless : (Task.scan opts.includeKeys tasks).fault = none
  includes : ∀ target ∈ (Task.scan opts.includeKeys tasks).targets, ∃ file,
    f.scope.resolve target = .ok file ∧ TaskFile.key opts ⟨f.role, f.scope, file⟩ ∈ p.expanded ∧
      p.graph.Joins (.task f.role f.file) (.task f.role file)

/-- Visits with one entry, one role and one base name have the same calls. -/
theorem Consistent.wired {v w : Visit} {g : Graph} (hV : Consistent opts V) (hv : v ∈ V) (hw : w ∈ V)
    (hkey : v.key opts = w.key opts) (h : v.toTaskFile.Wired lib opts g) : w.toTaskFile.Wired lib opts g := by
  have hlocation : v.location opts = w.location opts := congrArg Prod.fst hkey
  have hrole : v.role = w.role := hV.role v hv w hw hlocation
  have hscope : v.scope = w.scope := hV.scope v hv w hw (congrArg Prod.snd hkey)
  have hid : (Node.task v.role v.file).id = (Node.task w.role w.file).id := by
    simp only [Node.task, Node.taskId, hrole, hV.base v hv w hw hlocation]
  intro file hfile
  rw [← hlocation, ← hscope] at hfile
  exact (h file hfile).congr hid (by rw [hrole])

/-- A file that is covered by a settled and wired memo was followed to its end. -/
theorem Settled.closed (h : Settled lib opts V p.expanded) (hwired : Wired lib opts V p)
    (hV : Consistent opts V) {v : Visit} (hv : v ∈ V) (hkey : v.key opts ∈ p.expanded) :
    ∃ tasks, v.toTaskFile.Closed lib opts p tasks := by
  obtain ⟨tasks, hsound⟩ := h.soundOver hV.toCoherent (f := v.toTaskFile) ⟨⟨v, hv, rfl⟩, hkey⟩
  obtain ⟨w, hw, hsame, hcalls⟩ := hwired _ hkey
  refine ⟨tasks, hsound.loads, hsound.faultless, fun target htarget => ?_⟩
  have hmem := Task.mem_includes_of_mem_targets htarget
  obtain ⟨file, hresolve, hentry, -⟩ := hsound.includes target hmem
  exact ⟨file, hresolve, hentry,
    hV.wired hw hv hsame hcalls file ⟨tasks, hsound.loads, target, hmem, hresolve⟩⟩

end Analysis

namespace Analyzer

variable (a : Analyzer) (s : Site)

/-- A history that starts without a memo leaves one that is wired. -/
theorem wired_history {p : Analysis.Progress} (hp : p.expanded = []) (requests : List Request) :
    Analysis.Wired s.library a.options (a.history s requests p).visits (a.history s requests p).after := by
  refine history_preserves a s (P := Analysis.Wired s.library a.options _) (List.Subset.refl _) ?_
    fun _ _ hq hVq => Analysis.wired_tracePlaybook hVq hq
  intro key hkey
  rw [hp] at hkey
  contradiction

/-- After any requests, failed ones included, every entry of the memo belongs to a visited file, and
every visited file with an entry was followed to its end, as long as the visits are consistent. -/
theorem memo_closed (start : Analysis.State) (hstart : start.expanded = []) (requests : List Request)
    (hvisits : Analysis.Consistent a.options (a.history s requests start.progress).visits) :
    let st := a.afterAll s requests start
    ∀ key ∈ st.expanded,
      (∃ v ∈ (a.history s requests start.progress).visits, v.key a.options = key) ∧
      ∀ v ∈ (a.history s requests start.progress).visits, v.key a.options = key →
        ∃ tasks, v.toTaskFile.Closed s.library a.options st.progress tasks := by
  intro st key hkey
  have hsettled := settled_history a s (p := start.progress) hstart requests
  have hwired := wired_history a s (p := start.progress) hstart requests
  have hprogress : st.progress = (a.history s requests start.progress).after := progress_afterAll a s _ _
  have hmemo : key ∈ (a.history s requests start.progress).after.expanded := hprogress ▸ hkey
  rw [hprogress]
  constructor
  · obtain ⟨v, hv, heq, -⟩ := hwired key hmemo
    exact ⟨v, hv, heq⟩
  · rintro v hv rfl
    exact hsettled.closed hwired hvisits hv hmemo

/-- A playbook that fails at the last include of its role leaves two entries, and the memo is closed:
`a.yml` has one, and its include leads to `b.yml`, which has the other one. -/
theorem memo_closed_interrupted :
    let st := Analyzer.ofRole.afterAll interruptedSite [.playbook "/bad.yml"] {}
    ((Analyzer.ofRole.playbook interruptedSite "/bad.yml").run {}).1.isOk = false ∧
      st.expanded.map (·.1) = ["/roles/r/tasks/a.yml", "/roles/r/tasks/b.yml"] ∧
      ∀ key ∈ st.expanded, ∃ v : Analysis.Visit, v.key Analyzer.ofRole.options = key ∧
        ∃ tasks, v.toTaskFile.Closed interruptedSite.library Analyzer.ofRole.options st.progress tasks := by
  intro st
  obtain ⟨hfails, hmemo, hvisits⟩ :
      ((Analyzer.ofRole.playbook interruptedSite "/bad.yml").run {}).1.isOk = false ∧
        st.expanded.map (·.1) = ["/roles/r/tasks/a.yml", "/roles/r/tasks/b.yml"] ∧
        Analysis.Consistent Analyzer.ofRole.options (Analyzer.ofRole.history interruptedSite
          [.playbook "/bad.yml"] ({} : Analysis.State).progress).visits := by
    decide +kernel
  refine ⟨hfails, hmemo, fun key hkey => ?_⟩
  obtain ⟨⟨v, hv, heq⟩, hclosed⟩ :=
    Analyzer.ofRole.memo_closed interruptedSite {} rfl [.playbook "/bad.yml"] hvisits key hkey
  exact ⟨v, heq, hclosed v hv heq⟩

end Analyzer

end RoleGraph
