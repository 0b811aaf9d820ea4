import Mathlib.Algebra.BigOperators.Group.List.Basic
import RoleGraph.Proofs.SharedGraph
import RoleGraph.Report.Basic

/-!
# No orphans after success

A task file that succeeds hangs everything that it adds below its own node, and its caller then adds
the call to that node. The call may come late, after a memo entry was met or after another spelling
of the file was stored, but it always comes unless something fails. So once every request succeeded,
calls lead from a playbook to every task file. Hence every task file has a caller, and a summary
lists all of them and accounts for all edges.
-/

namespace RoleGraph

open Analysis (Progress Visit Trace mainFile)

namespace Graph

/-- One node calls another. -/
def Runs (g : Graph) (n m : Node) : Prop := ⟨n, m⟩ ∈ g.edges

/-- Calls lead from one identifier to another. -/
def Below (g : Graph) : Text → Text → Prop := Relation.ReflTransGen fun x y => (x, y) ∈ g.calls

/-- From `g` to `g'` no call was lost, and everything new is below an identifier. -/
structure GrowsBelow (g : Graph) (id : Text) (g' : Graph) : Prop where
  calls : g.calls ⊆ g'.calls
  new : ∀ x ∈ g'.ids, x ∈ g.ids ∨ g'.Below id x

/-- Everything is below a playbook. -/
def Rooted (g : Graph) : Prop :=
  ∀ x ∈ g.ids, ∃ location, Node.playbookId location ∈ g.ids ∧ g.Below (Node.playbookId location) x

/-- More calls lead wherever fewer do. -/
theorem Below.mono {g g' : Graph} {x y : Text} (h : g.calls ⊆ g'.calls) (hxy : g.Below x y) : g'.Below x y :=
  Relation.ReflTransGen.mono (fun _ _ hcall => h hcall) x y hxy

/-- A graph grows below every identifier by staying as it is. -/
theorem GrowsBelow.refl (g : Graph) (id : Text) : g.GrowsBelow id g :=
  ⟨List.Subset.refl _, fun _ hx => Or.inl hx⟩

/-- When something grew below a source and then below a target, the call between them puts it all below
the source. -/
theorem GrowsBelow.link {g g' g'' : Graph} {source target : Node} (h : g.GrowsBelow source.id g')
    (h' : g'.GrowsBelow target.id g'') : g.GrowsBelow source.id (g''.link source target) := by
  have hcalls : g''.calls ⊆ (g''.link source target).calls := by
    rw [calls_link]
    exact List.subset_append_left _ _
  have hcall : (source.id, target.id) ∈ (g''.link source target).calls := by simp
  refine ⟨List.Subset.trans h.calls (List.Subset.trans h'.calls hcalls), fun x hx => ?_⟩
  rcases mem_ids_link.mp hx with hx | rfl | rfl
  · rcases h'.new x hx with hx | hbelow
    · rcases h.new x hx with hx | hbelow
      · exact Or.inl hx
      · exact Or.inr (hbelow.mono (List.Subset.trans h'.calls hcalls))
    · exact Or.inr (.head hcall (hbelow.mono hcalls))
  · exact Or.inr (.single hcall)
  · exact Or.inr .refl

/-- What grows below a known playbook is rooted when everything else is. -/
theorem Rooted.grow {g g' : Graph} {location : Text} (h : g.Rooted)
    (hroot : Node.playbookId location ∈ g.ids) (hids : g.ids ⊆ g'.ids)
    (hgrow : g.GrowsBelow (Node.playbookId location) g') : g'.Rooted := by
  intro x hx
  rcases hgrow.new x hx with hx | hbelow
  · obtain ⟨l, hl, hbelow⟩ := h x hx
    exact ⟨l, hids hl, hbelow.mono hgrow.calls⟩
  · exact ⟨location, hids hroot, hbelow⟩

/-- A new root is rooted. -/
theorem Rooted.addNode {g : Graph} (h : g.Rooted) (location : Text) :
    (g.addNode (.playbook location)).Rooted := by
  intro x hx
  rcases mem_ids_addNode.mp hx with hx | rfl
  · obtain ⟨l, hl, hbelow⟩ := h x hx
    exact ⟨l, mem_ids_addNode.mpr (Or.inl hl), hbelow.mono (by rw [calls_addNode]; exact List.Subset.refl _)⟩
  · exact ⟨location, hx, .refl⟩

end Graph

namespace Analysis

variable {lib : Library} {opts : Options} {role : Text} {scope : Scope} {room : ℕ} {trail : List Text}
  {file location : Text} {p : Progress}

/-- A task file that succeeds hangs everything new below its own node. -/
theorem traceFile_growsBelow (h : (traceFile lib opts role scope room trail file p).failure = none) :
    p.graph.GrowsBelow (Node.taskId role file)
      (traceFile lib opts role scope room trail file p).after.graph := by
  induction room generalizing trail file p with
  | zero =>
    obtain ⟨left, hleft, -⟩ := traceFile_done h
    omega
  | succ room ih =>
    obtain ⟨left, hleft, -, ⟨-, heq⟩ | ⟨-, hbody, heq⟩⟩ := traceFile_done h
    · rw [heq]
      exact .refl _ _
    · obtain rfl : room = left := by omega
      obtain ⟨tasks, -, -, heach, hafter⟩ := traceBody_done hbody
      rw [heq, hafter]
      refine Trace.each_keeps (P := fun q => p.graph.GrowsBelow (Node.taskId role file) q.graph) heach
        (.refl _ _) fun target _ q hq hdone => ?_
      obtain ⟨next, -, hchild, hinclude⟩ := traceInclude_done hdone
      rw [hinclude]
      have hsource : (p.graph.stored (.task role file)).id = Node.taskId role file := Graph.stored_id _ _
      have htarget : (q.graph.stored (.task role next)).id = Node.taskId role next := Graph.stored_id _ _
      rw [← hsource] at hq ⊢
      exact hq.link (htarget ▸ ih hchild)

/-- A role that succeeds hangs everything new below its caller. -/
theorem traceRole_growsBelow {caller : Node} (h : (traceRole lib opts caller scope role p).failure = none) :
    p.graph.GrowsBelow caller.id (traceRole lib opts caller scope role p).after.graph := by
  obtain ⟨-, hmain, heq⟩ := traceRole_done h
  have htarget : (p.graph.stored (.task role mainFile)).id = Node.taskId role mainFile := Graph.stored_id _ _
  rw [heq]
  exact (Graph.GrowsBelow.refl p.graph caller.id).link (htarget ▸ traceFile_growsBelow hmain)

/-- A playbook that succeeds leaves everything rooted. -/
theorem rooted_tracePlaybook (h : (tracePlaybook lib opts location p).failure = none)
    (hp : p.graph.Rooted) : (tracePlaybook lib opts location p).after.graph.Rooted := by
  obtain ⟨plays, -, heach, heq⟩ := tracePlaybook_done h
  rw [heq]
  refine (Trace.each_keeps (P := fun q => Node.playbookId location ∈ q.graph.ids ∧ q.graph.Rooted) heach
    ⟨Graph.mem_ids_addNode.mpr (Or.inr rfl), hp.addNode location⟩ ?_).2
  rintro ref - q ⟨hroot, hq⟩ hdone
  have hgrow := traceRole_growsBelow (traceRef_done hdone)
  rw [Graph.stored_id] at hgrow
  exact ⟨ids_subset_traceRole hroot, hq.grow hroot ids_subset_traceRole hgrow⟩

end Analysis

/-- A request that succeeds leaves everything rooted. -/
theorem Request.rooted_trace {a : Analyzer} {s : Site} {r : Request} {p : Progress}
    (h : (r.trace a s p).failure = none) (hp : p.graph.Rooted) : (r.trace a s p).after.graph.Rooted := by
  unfold Request.trace at h ⊢
  split at h
  · simp at h
  · refine Trace.each_keeps (P := fun q => q.graph.Rooted) h hp fun l _ q hq hdone => ?_
    refine Analysis.rooted_tracePlaybook ?_ hq
    simpa [Request.traceAt, Trace.mapFailure] using hdone

namespace Shared

variable (team : ℕ → Analyzer)

/-- All turns succeed, one after the other. -/
def Succeed : List Turn → Shared → Prop
  | [], _ => True
  | t :: rest, sh => (t.take team sh).1 = .ok () ∧ Succeed rest (t.take team sh).2

/-- Whether turns succeed is found by taking them. -/
instance decidableSucceed : (turns : List Turn) → (sh : Shared) → Decidable (sh.Succeed team turns)
  | [], _ => isTrue trivial
  | t :: rest, sh =>
    have := decidableSucceed rest (t.take team sh).2
    inferInstanceAs (Decidable (_ ∧ _))

/-- Turns that succeed leave everything rooted. -/
theorem rooted_after {turns : List Turn} {sh : Shared} (h : sh.Succeed team turns) (hsh : sh.graph.Rooted) :
    (sh.after team turns).graph.Rooted := by
  induction turns generalizing sh with
  | nil => exact hsh
  | cons t rest ih =>
    obtain ⟨ht, hrest⟩ := h
    refine ih hrest ?_
    rw [Turn.graph_take]
    exact Request.rooted_trace ((t.take_ok_iff team sh).mp ht) hsh

end Shared

namespace Graph

/-- In a sound graph, calls between identifiers are calls between the stored nodes. -/
theorem Store.Sound.runs_of_below {g : Graph} (h : g.Sound) {n : Node} (hn : n ∈ g.nodes) {id : Text}
    (hbelow : g.Below n.id id) :
    ∃ m ∈ g.nodes, m.id = id ∧ Relation.ReflTransGen g.Runs n m := by
  induction hbelow with
  | refl => exact ⟨n, hn, rfl, .refl⟩
  | tail _ hcall ih =>
    obtain ⟨m, hm, rfl, hpath⟩ := ih
    obtain ⟨e, he, heq⟩ := List.mem_map.mp hcall
    obtain ⟨hsource, rfl⟩ := Prod.mk.inj heq
    obtain rfl := h.eq_of_id (mem_of_find? (h.source_stored e he)) hm hsource
    exact ⟨e.target, mem_of_find? (h.target_stored e he), rfl, hpath.tail he⟩

namespace Layered

variable {V : List Visit} {g : Graph}

/-- In a layered graph that is rooted, calls lead from a playbook node to every task node. -/
theorem exists_playbook (h : g.Layered V) (hrooted : g.Rooted) {n : Node} (hn : n ∈ g.nodes) :
    ∃ r ∈ g.nodes, r.kind = .playbook ∧ Relation.ReflTransGen g.Runs r n := by
  obtain ⟨location, hlocation, hbelow⟩ := hrooted n.id (List.mem_map.mpr ⟨n, hn, rfl⟩)
  obtain ⟨r, hr, hid⟩ := List.mem_map.mp hlocation
  rw [← hid] at hbelow
  obtain ⟨m, hm, hmid, hpath⟩ := h.runs_of_below hr hbelow
  obtain rfl := h.eq_of_id hm hn hmid
  exact ⟨r, hr, h.playbook_of_id hr hid, hpath⟩

/-- In a layered graph that is rooted, every task node has a caller. -/
theorem inDegree_pos (h : g.Layered V) (hrooted : g.Rooted) {n : Node} (hn : n ∈ g.taskNodes) :
    0 < g.inDegree n.id := by
  obtain ⟨hmem, hkind⟩ := List.mem_filter.mp hn
  obtain ⟨r, -, hplaybook, hpath⟩ := h.exists_playbook hrooted hmem
  rcases Relation.ReflTransGen.cases_tail hpath with rfl | ⟨m, -, hlast⟩
  · simp [hplaybook] at hkind
  · rw [inDegree_eq]
    exact List.countP_pos_iff.mpr ⟨⟨m, n⟩, hlast, by simp⟩

/-- The hotspots are all task files when each of them has a caller. -/
theorem hotspots_perm (h : g.Layered V) (hrooted : g.Rooted) :
    g.hotspots.Perm (g.taskNodes.map g.hotspot) := by
  have hall : (g.taskNodes.map g.hotspot).filter (0 < ·.callers) = g.taskNodes.map g.hotspot := by
    refine List.filter_eq_self.mpr fun spot hspot => ?_
    obtain ⟨n, hn, rfl⟩ := List.mem_map.mp hspot
    exact decide_eq_true (h.inDegree_pos hrooted hn)
  rw [Store.hotspots, hall]
  exact List.mergeSort_perm _ _

/-- Every edge ends at a task node, so their callers account for all edges. -/
theorem sum_callers (h : g.Layered V) : ((g.taskNodes.map g.hotspot).map (·.callers)).sum = g.edges.length := by
  have hnodup : (g.taskNodes.map (·.id)).Nodup := List.Nodup.sublist (List.filter_sublist.map _) h.nodup
  have htargets : g.edges.map (·.target.id) ⊆ g.taskNodes.map (·.id) := by
    intro id hid
    obtain ⟨e, he, rfl⟩ := List.mem_map.mp hid
    obtain ⟨-, htarget, htask, -⟩ := h.edge_cases he
    exact List.mem_map.mpr ⟨e.target, List.mem_filter.mpr ⟨htarget, by simp [htask]⟩, rfl⟩
  have hsum := sum_count_keys hnodup htargets
  rw [List.length_map] at hsum
  rw [← hsum, List.map_map, List.map_map]
  congr 2
  funext n
  simp only [Function.comp_apply, Store.hotspot, inDegree_eq, List.count, List.countP_map]
  rfl

end Layered

end Graph

/-- After turns that all succeeded, calls lead from a playbook to every task file; the summary lists all
task files as hotspots, and their callers are all edges. -/
theorem Shared.graph_rooted (team : ℕ → Analyzer) (turns : List Turn) (h : Shared.Succeed team turns {}) :
    let g := (Shared.after team turns {}).graph
    (∀ n ∈ g.nodes, n.kind = .task →
        ∃ r ∈ g.nodes, r.kind = .playbook ∧ Relation.ReflTransGen g.Runs r n) ∧
      (∀ n ∈ g.nodes, n.kind = .task → g.hotspot n ∈ (g.summary 0).hotspots) ∧
      (g.summary 0).hotspots.length = (g.summary 0).taskFiles ∧
      ((g.summary 0).hotspots.map (·.callers)).sum = (g.summary 0).edges := by
  intro g
  have hlayered : g.Layered (Shared.visits team turns {}) :=
    Graph.Layered.lasting.turns team (List.Subset.refl _) Graph.Layered.empty
  have hrooted : g.Rooted := Shared.rooted_after team h nofun
  have hperm : (g.summary 0).hotspots.Perm (g.taskNodes.map g.hotspot) := hlayered.hotspots_perm hrooted
  refine ⟨fun n hn _ => hlayered.exists_playbook hrooted hn, fun n hn hkind => ?_, ?_, ?_⟩
  · have htask : n ∈ g.taskNodes := List.mem_filter.mpr ⟨hn, by simp [hkind]⟩
    exact hperm.mem_iff.mpr (List.mem_map.mpr ⟨n, htask, rfl⟩)
  · rw [hperm.length_eq, List.length_map]
    rfl
  · rw [(hperm.map (·.callers)).sum_eq]
    exact hlayered.sum_callers

/-- A site whose role includes a file twice, once inside a block and under another spelling. -/
def respelledSite : Site := .ofRole
  [("p.yml", "- roles: [r]\n")]
  [("main.yml", "- include_tasks: ./a.yml\n- block:\n  - include_tasks: b.yml\n"),
   ("a.yml", "- include_tasks: b.yml\n"),
   ("b.yml", "")]

/-- Another site with the same role, which has one more file now. -/
def extendedSite : Site := .ofRole
  [("q.yml", "- roles: [r]\n")]
  [("main.yml", "- include_tasks: a.yml\n"),
   ("a.yml", "- include_tasks: c.yml\n"),
   ("c.yml", "")]

/-- Two analyzers with different limits take turns on one graph, while the files change. -/
def sharedTurns : List Turn :=
  [⟨0, respelledSite, .playbook "/p.yml"⟩, ⟨1, extendedSite, .playbook "/q.yml"⟩,
    ⟨0, extendedSite, .playbook "/q.yml"⟩]

/-- The analyzers of these turns. -/
def sharedTeam : ℕ → Analyzer
  | 0 => { options := { rolesDir := "/roles" } }
  | _ => { options := { rolesDir := "/roles", maxDepth := 3 } }

/-- The two analyzers leave four task files, each of them below a playbook, and eight calls. -/
theorem Shared.graph_rooted_sharedTurns :
    Shared.Succeed sharedTeam sharedTurns {} ∧
      let g := (Shared.after sharedTeam sharedTurns {}).graph
      (g.summary 0).taskFiles = 4 ∧ (g.summary 0).hotspots.length = 4 ∧
        ((g.summary 0).hotspots.map (·.callers)).sum = 8 ∧
        ∀ n ∈ g.nodes, n.kind = .task →
          ∃ r ∈ g.nodes, r.kind = .playbook ∧ Relation.ReflTransGen g.Runs r n := by
  obtain ⟨hsucceed, htasks, hedges⟩ : Shared.Succeed sharedTeam sharedTurns {} ∧
      ((Shared.after sharedTeam sharedTurns {}).graph.summary 0).taskFiles = 4 ∧
      ((Shared.after sharedTeam sharedTurns {}).graph.summary 0).edges = 8 := by
    decide +kernel
  obtain ⟨hrooted, -, hlength, hsum⟩ := Shared.graph_rooted sharedTeam sharedTurns hsucceed
  exact ⟨hsucceed, htasks, hlength.trans htasks, hsum.trans hedges, hrooted⟩

end RoleGraph
