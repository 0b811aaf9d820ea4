import RoleGraph.Proofs.Completion
import RoleGraph.Proofs.History

/-!
# What an analysis adds to a graph

There are three additions: the root of a playbook, a call from a root to the main task file of a
role, and a call between two task files of one role. The nodes of a call are looked up before the
files below it are followed, and other spellings of them may have been stored meanwhile, but the call
joins whatever is stored under their identifiers by then. A property of graphs that the three
additions keep therefore holds after every analysis, also after one that fails.
-/

namespace RoleGraph

namespace Analysis

/-- A property of graphs that is kept by adding a root, by adding a call from a root to a visited main
task file, and by adding a call between visited files of one role. -/
structure Lasting (V : List Visit) (P : Graph → Prop) : Prop where
  root : ∀ g location, P g → P (g.addNode (.playbook location))
  start : ∀ g location role, (∃ v ∈ V, v.role = role ∧ v.file = mainFile) → P g →
    P (g.link (.playbook location) (.task role mainFile))
  call : ∀ g, ∀ v ∈ V, ∀ w ∈ V, v.role = w.role → P g →
    P (g.link (.task v.role v.file) (.task w.role w.file))

variable {lib : Library} {opts : Options} {role : Text} {scope : Scope} {room : ℕ} {trail : List Text}
  {file location : Text} {p : Progress} {V : List Visit} {P : Graph → Prop}

/-- A task file forgets no identifier. -/
theorem ids_subset_traceFile :
    p.graph.ids ⊆ (traceFile lib opts role scope room trail file p).after.graph.ids :=
  traceFile_preserves (P := fun q => p.graph.ids ⊆ q.graph.ids) lib opts role scope room trail file
    (fun _ _ _ hq _ hid => Graph.mem_ids_link.mpr (Or.inl (hq hid))) (fun _ _ _ hq => hq)
    (List.Subset.refl _)

/-- A role forgets no identifier. -/
theorem ids_subset_traceRole {caller : Node} :
    p.graph.ids ⊆ (traceRole lib opts caller scope role p).after.graph.ids :=
  traceRole_preserves (P := fun q => p.graph.ids ⊆ q.graph.ids) lib opts caller scope role
    (fun _ _ _ hq _ hid => Graph.mem_ids_link.mpr (Or.inl (hq hid))) (fun _ _ hq => hq)
    (List.Subset.refl _)

namespace Lasting

/-- An include keeps what lasts when the included file does, and forgets no identifier; the node of the
including file was looked up in a graph that knew no more. -/
theorem traceInclude (h : Lasting V P) {v : Visit} (hv : v ∈ V) {left : ℕ} {target : Text} {g : Graph}
    (hg : g.ids ⊆ p.graph.ids)
    (hchild : ∀ next, (traceFile lib opts v.role v.scope left trail next p).visits ⊆ V →
      P (traceFile lib opts v.role v.scope left trail next p).after.graph)
    (hV : (traceInclude v.role location v.scope (g.stored (.task v.role v.file))
      (traceFile lib opts v.role v.scope left trail) target p).visits ⊆ V) (hp : P p.graph) :
    let after := (Analysis.traceInclude v.role location v.scope (g.stored (.task v.role v.file))
      (traceFile lib opts v.role v.scope left trail) target p).after
    p.graph.ids ⊆ after.graph.ids ∧ P after.graph := by
  cases hresolve : v.scope.resolve target with
  | error cause =>
    simp only [Analysis.traceInclude, hresolve]
    exact ⟨List.Subset.refl _, hp⟩
  | ok next =>
    rw [traceInclude_resolved hresolve] at hV ⊢
    have hVchild := List.Subset.trans (Trace.visits_subset_andThen _ _) hV
    refine Trace.andThen_preserves (P := fun q => p.graph.ids ⊆ q.graph.ids ∧ P q.graph) hV
      ⟨ids_subset_traceFile, hchild next hVchild⟩ ?_
    rintro q ⟨hids, hq⟩ -
    refine ⟨fun id hid => Graph.mem_ids_link.mpr (Or.inl (hids hid)), ?_⟩
    dsimp only [Progress.link]
    rw [Graph.link_stored (List.Subset.trans hg hids) hids]
    have hw : TaskFile.visit ⟨v.role, v.scope, next⟩ opts trail p ∈ V := hVchild visit_mem_traceFile
    have hcall := h.call q.graph v hv _ hw (by rw [TaskFile.visit]) hq
    rwa [TaskFile.visit] at hcall

/-- The body of a visited task file keeps what lasts when the included files do. -/
theorem traceBody (h : Lasting V P) {v : Visit} (hv : v ∈ V) {left : ℕ}
    (hchild : ∀ next q, (traceFile lib opts v.role v.scope left trail next q).visits ⊆ V → P q.graph →
      P (traceFile lib opts v.role v.scope left trail next q).after.graph)
    (hV : (traceBody lib opts v.toTaskFile (traceFile lib opts v.role v.scope left trail) p).visits ⊆ V)
    (hp : P p.graph) :
    P (Analysis.traceBody lib opts v.toTaskFile
      (traceFile lib opts v.role v.scope left trail) p).after.graph := by
  cases htasks : lib.tasks (v.location opts) with
  | error cause =>
    simp only [Analysis.traceBody, htasks]
    exact hp
  | ok tasks =>
    rw [traceBody_loaded htasks] at hV ⊢
    have hVeach := List.Subset.trans (Trace.visits_subset_andThen _ _) hV
    have hincludes := Trace.each_preserves (P := fun q => p.graph.ids ⊆ q.graph.ids ∧ P q.graph) hVeach
      ⟨List.Subset.refl _, hp⟩ <| by
        rintro target - q ⟨hids, hq⟩ hVq
        obtain ⟨hids', hq'⟩ := h.traceInclude hv hids (fun next hVnext => hchild next q hVnext hq) hVq hq
        exact ⟨List.Subset.trans hids hids', hq'⟩
    refine Trace.andThen_preserves (P := fun q => P q.graph) hV hincludes.2 fun q hq _ => ?_
    unfold traceEnd
    split
    · exact hq
    · exact hq

/-- Following a task file keeps what lasts, whether it succeeds or not. -/
theorem traceFile (h : Lasting V P) (hV : (traceFile lib opts role scope room trail file p).visits ⊆ V)
    (hp : P p.graph) : P (Analysis.traceFile lib opts role scope room trail file p).after.graph := by
  induction room generalizing trail file p with
  | zero =>
    rw [Analysis.traceFile]
    dsimp only [Trace.visiting]
    split_ifs
    · exact hp
    · exact hp
  | succ room ih =>
    rw [Analysis.traceFile] at hV ⊢
    dsimp only [Trace.visiting] at hV ⊢
    split_ifs at hV ⊢ with hcycle hknown
    · exact hp
    · exact hp
    · obtain ⟨hv, hVbody⟩ := List.cons_subset.mp hV
      exact h.traceBody (v := TaskFile.visit ⟨role, scope, file⟩ opts trail p) hv
        (fun next q hVq hq => ih hVq hq) hVbody hp

/-- Following a role keeps what lasts; the node of the playbook was looked up in a graph that knew no
more. -/
theorem traceRole (h : Lasting V P) {g : Graph} (hg : g.ids ⊆ p.graph.ids)
    (hV : (traceRole lib opts (g.stored (.playbook location)) scope role p).visits ⊆ V) (hp : P p.graph) :
    P (Analysis.traceRole lib opts (g.stored (.playbook location)) scope role p).after.graph := by
  unfold Analysis.traceRole at hV ⊢
  split
  · exact hp
  · exact hp
  · rename_i hdir
    simp only [hdir] at hV
    have hVmain := List.Subset.trans (Trace.visits_subset_andThen _ _) hV
    refine (Trace.andThen_preserves (P := fun q => p.graph.ids ⊆ q.graph.ids ∧ P q.graph) hV
      ⟨ids_subset_traceFile, h.traceFile hVmain hp⟩ ?_).2
    rintro q ⟨hids, hq⟩ -
    refine ⟨fun id hid => Graph.mem_ids_link.mpr (Or.inl (hids hid)), ?_⟩
    dsimp only [Progress.link]
    rw [Graph.link_stored (List.Subset.trans hg hids) hids]
    have hvisit : TaskFile.visit ⟨role, scope, mainFile⟩ opts [] p ∈ V := hVmain visit_mem_traceFile
    refine h.start _ location role ⟨_, hvisit, ?_, ?_⟩ hq
    · rfl
    · simp only [TaskFile.visit]

/-- Following a playbook keeps what lasts, whether it succeeds or not. -/
theorem tracePlaybook (h : Lasting V P) (hV : (tracePlaybook lib opts location p).visits ⊆ V)
    (hp : P p.graph) : P (Analysis.tracePlaybook lib opts location p).after.graph := by
  unfold Analysis.tracePlaybook at hV ⊢
  split
  · exact hp
  · rename_i plays hplays
    simp only [hplays] at hV
    refine (Trace.each_preserves (P := fun q => (p.root location).graph.ids ⊆ q.graph.ids ∧ P q.graph) hV
      ⟨List.Subset.refl _, h.root _ location hp⟩ ?_).2
    rintro ref - q ⟨hids, hq⟩ hVq
    exact ⟨List.Subset.trans hids ids_subset_traceRole, h.traceRole hids hVq hq⟩

/-- A request keeps what lasts, whether it succeeds or not. -/
theorem request (h : Lasting V P) {a : Analyzer} {s : Site} {r : Request}
    (hV : (r.trace a s p).visits ⊆ V) (hp : P p.graph) : P (r.trace a s p).after.graph := by
  unfold Request.trace at hV ⊢
  split
  · exact hp
  · rename_i locations hlocations
    simp only [hlocations] at hV
    refine Trace.each_preserves (P := fun q => P q.graph) hV hp ?_
    intro l _ q hq hVq
    exact h.tracePlaybook hVq hq

end Lasting

end Analysis

end RoleGraph
