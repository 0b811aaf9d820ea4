import Mathlib.Logic.Function.Basic
import RoleGraph.Proofs.Failures
import RoleGraph.Proofs.GraphAdditions
import RoleGraph.Proofs.GraphOperations
import RoleGraph.Proofs.NodeIdentity

/-!
# The shape of a shared graph

Several analyzers may add to one graph. They take turns; each has a memo of its own, and the files
may be others at every turn. Whatever the turns were and however they ended, the graph has layers:
playbooks call main task files, task files call task files of their own role, and nothing calls a
playbook. A turn only adds to the ends of the nodes and of the edges, and no edge is ever refused.

None of this depends on what a memo holds, since a memo only decides which files are passed over.
-/

namespace RoleGraph

open Analysis (Progress Visit Trace Lasting mainFile)

/-- A graph that analyzers share, each of them with its own memo. -/
structure Shared where
  graph : Graph := {}
  memo : ℕ → List (Text × UInt64) := fun _ => []

/-- One turn: the number of the analyzer that is asked, the files as they are then, and the request. -/
structure Turn where
  analyzer : ℕ
  site : Site
  request : Request

namespace Turn

variable (team : ℕ → Analyzer) (t : Turn) (sh : Shared)

/-- The state in which the analyzer of a turn starts. -/
def state : Analysis.State := { graph := sh.graph, expanded := sh.memo t.analyzer }

/-- Take a turn: how the request ends, and what is shared then. -/
def take : Except Analyzer.DirectoryError Unit × Shared :=
  let (result, st) := (t.request.perform (team t.analyzer) t.site).run (t.state sh)
  (result, ⟨st.graph, Function.update sh.memo t.analyzer st.expanded⟩)

/-- The trace of a turn. -/
def trace : Trace Analyzer.DirectoryError :=
  t.request.trace (team t.analyzer) t.site (t.state sh).progress

/-- A turn leaves the graph of its trace. -/
theorem graph_take : (t.take team sh).2.graph = (t.trace team sh).after.graph :=
  congrArg Progress.graph (Analyzer.mirrors_perform (team t.analyzer) t.site t.request (t.state sh)).progress

/-- A turn succeeds when its trace does. -/
theorem take_ok_iff : (t.take team sh).1 = .ok () ↔ (t.trace team sh).failure = none :=
  (Analyzer.mirrors_perform (team t.analyzer) t.site t.request (t.state sh)).success

/-- A turn fails as its trace does. -/
theorem take_error_iff {e : Analyzer.DirectoryError} :
    (t.take team sh).1 = .error e ↔ (t.trace team sh).failure = some e :=
  (Analyzer.mirrors_perform (team t.analyzer) t.site t.request (t.state sh)).failure

end Turn

namespace Shared

variable (team : ℕ → Analyzer)

/-- What is shared after some turns, whether they succeed or not. -/
def after (turns : List Turn) (sh : Shared) : Shared := turns.foldl (fun sh t => (t.take team sh).2) sh

/-- The visits of some turns, in order. -/
def visits : List Turn → Shared → List Visit
  | [], _ => []
  | t :: rest, sh => (t.trace team sh).visits ++ visits rest (t.take team sh).2

end Shared

/-- What lasts is kept by all turns. -/
theorem Analysis.Lasting.turns {V : List Visit} {P : Graph → Prop} (h : Lasting V P) (team : ℕ → Analyzer)
    {turns : List Turn} {sh : Shared} (hV : sh.visits team turns ⊆ V) (hp : P sh.graph) :
    P (sh.after team turns).graph := by
  induction turns generalizing sh with
  | nil => exact hp
  | cons t rest ih =>
    obtain ⟨hVt, hVrest⟩ := List.append_subset.mp hV
    refine ih hVrest ?_
    rw [Turn.graph_take]
    exact h.request hVt hp

namespace Graph

/-- Adding a node adds no other node. -/
theorem mem_nodes_addNode {g : Graph} {n m : Node} (h : m ∈ (g.addNode n).nodes) : m ∈ g.nodes ∨ m = n := by
  by_cases hn : n.id ∈ g.ids
  · rw [addNode_of_mem hn] at h
    exact Or.inl h
  · rw [addNode_of_notMem hn] at h
    exact (List.mem_append.mp h).imp_right List.mem_singleton.mp

/-- Linking adds no other node. -/
theorem mem_nodes_link {g : Graph} {source target m : Node} (h : m ∈ (g.link source target).nodes) :
    m ∈ g.nodes ∨ m = source ∨ m = target := by
  rcases mem_nodes_addNode h with h | h
  · rcases mem_nodes_addNode h with h | h
    · exact Or.inl h
    · exact Or.inr (Or.inr h)
  · exact Or.inr (Or.inl h)

/-- A graph goes on where another one ended. -/
structure Continues (g g' : Graph) : Prop where
  nodes_prefix : g.nodes <+: g'.nodes
  edges_prefix : g.edges <+: g'.edges

/-- An added node continues a graph. -/
theorem continues_addNode (g : Graph) (n : Node) : g.Continues (g.addNode n) :=
  have h := advances_after g (.addNode n)
  ⟨h.nodes_prefix, h.edges_prefix⟩

/-- A link continues a graph. -/
theorem continues_link (g : Graph) (source target : Node) : g.Continues (g.link source target) := by
  have htarget := g.continues_addNode target
  have hsource := (g.addNode target).continues_addNode source
  exact ⟨htarget.nodes_prefix.trans hsource.nodes_prefix,
    (htarget.edges_prefix.trans hsource.edges_prefix).trans (List.prefix_append _ _)⟩

/-- What continues a continuation continues the graph. -/
theorem Continues.trans {g g' g'' : Graph} (h : g.Continues g') (h' : g'.Continues g'') :
    g.Continues g'' :=
  ⟨h.nodes_prefix.trans h'.nodes_prefix, h.edges_prefix.trans h'.edges_prefix⟩

/-- A link keeps a graph sound. -/
theorem Store.Sound.link {g : Graph} (h : g.Sound) (source target : Node) : (g.link source target).Sound :=
  ((h.addNode target).addNode source).join (by simp) (by simp)

/-- A stored node is told by its identifier. -/
theorem Store.Sound.eq_of_id {g : Graph} (h : g.Sound) {n m : Node} (hn : n ∈ g.nodes) (hm : m ∈ g.nodes)
    (hid : n.id = m.id) : n = m := List.inj_on_of_nodup_map h.nodup hn hm hid

/-- What the nodes and the calls of a graph are made of: roots, visited task files, calls from roots to
main task files, and calls inside a role. -/
structure Layered (V : List Visit) (g : Graph) : Prop extends g.Sound where
  nodes : ∀ n ∈ g.nodes, (∃ location, n = .playbook location) ∨ ∃ v ∈ V, n = .task v.role v.file
  calls : ∀ c ∈ g.calls, (∃ location role, c = (Node.playbookId location, Node.taskId role mainFile)) ∨
    ∃ role file file', c = (Node.taskId role file, Node.taskId role file')

/-- The shape of a graph that analyses made with some visits. -/
structure Shaped (V : List Visit) (g : Graph) : Prop where
  target_task : ∀ e ∈ g.edges, e.target ∈ g.nodes ∧ e.target.kind = .task
  uncalled : ∀ n ∈ g.nodes, n.kind = .playbook → g.inDegree n.id = 0
  calls_main : ∀ e ∈ g.edges, e.source.kind = .playbook → e.target.id = Node.taskId e.target.role mainFile
  same_role : ∀ e ∈ g.edges, e.source.kind = .task → e.source.role = e.target.role
  /-- A task node has the role and the file of a visit, and the role of every visit to its file. -/
  visited : ∀ n ∈ g.nodes, n.kind = .task → (∃ v ∈ V, v.role = n.role ∧ v.file = n.file) ∧
    ∀ v ∈ V, Node.taskId v.role v.file = n.id → v.role = n.role

namespace Layered

variable {V : List Visit} {g : Graph}

/-- A stored node with the identifier of a task file is a task node of its role. -/
theorem task_of_id (h : g.Layered V) {n : Node} (hn : n ∈ g.nodes) {role file : Text}
    (hid : n.id = Node.taskId role file) : n.kind = .task ∧ n.role = role := by
  rcases h.nodes n hn with ⟨location, rfl⟩ | ⟨v, -, rfl⟩
  · exact absurd hid.symm (Node.taskId_ne_playbookId role file location)
  · exact ⟨rfl, (Node.taskId_inj hid).1⟩

/-- A stored node with the identifier of a playbook is a playbook node. -/
theorem playbook_of_id (h : g.Layered V) {n : Node} (hn : n ∈ g.nodes) {location : Text}
    (hid : n.id = Node.playbookId location) : n.kind = .playbook := by
  rcases h.nodes n hn with ⟨location', rfl⟩ | ⟨v, -, rfl⟩
  · rfl
  · exact absurd hid (Node.taskId_ne_playbookId v.role v.file location)

/-- An edge goes from a playbook to a main task file, or between task files of one role. -/
theorem edge_cases (h : g.Layered V) {e : Edge} (he : e ∈ g.edges) :
    e.source ∈ g.nodes ∧ e.target ∈ g.nodes ∧ e.target.kind = .task ∧
      ((e.source.kind = .playbook ∧ e.target.id = Node.taskId e.target.role mainFile) ∨
        (e.source.kind = .task ∧ e.source.role = e.target.role)) := by
  have hsource := mem_of_find? (h.source_stored e he)
  have htarget := mem_of_find? (h.target_stored e he)
  have hcall : (e.source.id, e.target.id) ∈ g.calls := List.mem_map.mpr ⟨e, he, rfl⟩
  rcases h.calls _ hcall with ⟨location, role, heq⟩ | ⟨role, file, file', heq⟩
  · obtain ⟨hs, ht⟩ := Prod.mk.inj heq
    obtain ⟨hkind, hrole⟩ := h.task_of_id htarget ht
    exact ⟨hsource, htarget, hkind, Or.inl ⟨h.playbook_of_id hsource hs, hrole.symm ▸ ht⟩⟩
  · obtain ⟨hs, ht⟩ := Prod.mk.inj heq
    obtain ⟨hkind, hrole⟩ := h.task_of_id htarget ht
    obtain ⟨hkind', hrole'⟩ := h.task_of_id hsource hs
    exact ⟨hsource, htarget, hkind, Or.inr ⟨hkind', hrole'.trans hrole.symm⟩⟩

/-- A layered graph has the shape of an analysis. -/
theorem shaped (h : g.Layered V) : g.Shaped V := by
  refine ⟨fun e he => ?_, fun n hn hkind => ?_, fun e he hkind => ?_, fun e he hkind => ?_,
    fun n hn hkind => ?_⟩
  · obtain ⟨-, htarget, htask, -⟩ := h.edge_cases he
    exact ⟨htarget, htask⟩
  · rw [inDegree_eq]
    refine List.countP_eq_zero.mpr fun e he hid => ?_
    obtain ⟨-, htarget, htask, -⟩ := h.edge_cases he
    obtain rfl := h.eq_of_id htarget hn (by simpa using hid)
    rw [hkind] at htask
    contradiction
  · obtain ⟨-, -, -, ⟨-, hmain⟩ | ⟨htask, -⟩⟩ := h.edge_cases he
    · exact hmain
    · rw [hkind] at htask
      contradiction
  · obtain ⟨-, -, -, ⟨hplaybook, -⟩ | ⟨-, hrole⟩⟩ := h.edge_cases he
    · rw [hkind] at hplaybook
      contradiction
    · exact hrole
  · rcases h.nodes n hn with ⟨location, rfl⟩ | ⟨v, hv, rfl⟩
    · contradiction
    · exact ⟨⟨v, hv, rfl, rfl⟩, fun w _ hw => (Node.taskId_inj hw).1⟩

/-- The empty graph is layered. -/
theorem empty : Layered V {} := ⟨sound_empty, nofun, nofun⟩

/-- Every addition of an analysis keeps a graph layered. -/
theorem lasting : Lasting V (Layered V) := by
  refine ⟨fun g location h => ?_, fun g location role hmain h => ?_, fun g v hv w hw hrole h => ?_⟩
  · refine ⟨h.toSound.addNode _, fun n hn => ?_, fun c hc => ?_⟩
    · rcases mem_nodes_addNode hn with hn | rfl
      · exact h.nodes n hn
      · exact Or.inl ⟨location, rfl⟩
    · rw [calls_addNode] at hc
      exact h.calls c hc
  · refine ⟨h.toSound.link _ _, fun n hn => ?_, fun c hc => ?_⟩
    · rcases mem_nodes_link hn with hn | rfl | rfl
      · exact h.nodes n hn
      · exact Or.inl ⟨location, rfl⟩
      · obtain ⟨v, hv, hvrole, hvfile⟩ := hmain
        exact Or.inr ⟨v, hv, by rw [hvrole, hvfile]⟩
    · rw [calls_link] at hc
      rcases List.mem_append.mp hc with hc | hc
      · exact h.calls c hc
      · exact Or.inl ⟨location, role, List.mem_singleton.mp hc⟩
  · refine ⟨h.toSound.link _ _, fun n hn => ?_, fun c hc => ?_⟩
    · rcases mem_nodes_link hn with hn | rfl | rfl
      · exact h.nodes n hn
      · exact Or.inr ⟨v, hv, rfl⟩
      · exact Or.inr ⟨w, hw, rfl⟩
    · rw [calls_link] at hc
      rcases List.mem_append.mp hc with hc | hc
      · exact h.calls c hc
      · obtain rfl := List.mem_singleton.mp hc
        exact Or.inr ⟨w.role, v.file, w.file, by rw [← hrole]; rfl⟩

end Layered

end Graph

namespace Analysis

/-- Every addition of an analysis continues the graph that it started from. -/
theorem lasting_continues (V : List Visit) (g : Graph) : Lasting V g.Continues :=
  ⟨fun g' _ h => h.trans (g'.continues_addNode _), fun g' _ _ _ h => h.trans (g'.continues_link _ _),
    fun g' _ _ _ _ _ h => h.trans (g'.continues_link _ _)⟩

/-- A visit never fails because of an edge. -/
theorem Visit.Raises.ne_edge {lib : Library} {opts : Options} {v : Visit} {e : ExpandError}
    (h : v.Raises lib opts e) (cause : Graph.EdgeError) : e ≠ .edge cause := by
  cases h with
  | cycle => exact nofun
  | tooDeep => exact nofun
  | faulty h => cases h <;> exact nofun

/-- A playbook never fails because of an edge. -/
theorem tracePlaybook_ne_edge {lib : Library} {opts : Options} {location : Text} {p : Progress}
    {root name : Text} {cause : Graph.EdgeError} :
    (tracePlaybook lib opts location p).failure ≠ some (.play root name (.expand (.edge cause))) := by
  intro h
  rcases tracePlaybook_failure h with ⟨_, -, heq⟩ | ⟨_, _, role, scope, roleCause, -, heq, hfails⟩
  · contradiction
  · cases heq
    cases hfails with
    | expand _ hraises => exact hraises.ne_edge cause rfl

end Analysis

/-- A request never fails because of an edge. -/
theorem Request.trace_ne_edge {a : Analyzer} {s : Site} {r : Request} {p : Progress} {root name : Text}
    {cause : Graph.EdgeError} :
    (r.trace a s p).failure ≠ some (.playbook (.play root name (.expand (.edge cause)))) := by
  intro h
  unfold Request.trace at h
  split at h
  · simp at h
  · obtain ⟨l, -, q, hl, -⟩ := Trace.each_failure_eq_some h
    obtain ⟨e, he, heq⟩ := Option.map_eq_some_iff.mp hl
    cases heq
    exact Analysis.tracePlaybook_ne_edge he

/-- After any turns on an empty graph the graph has the shape of an analysis, and whatever the next turn
is, it only adds to the graph and is not refused an edge. -/
theorem Shared.graph_shaped (team : ℕ → Analyzer) (turns : List Turn) (t : Turn) :
    let sh := Shared.after team turns {}
    sh.graph.Shaped (Shared.visits team turns {}) ∧ sh.graph.Continues (t.take team sh).2.graph ∧
      ∀ root name cause, (t.take team sh).1 ≠ .error (.playbook (.play root name (.expand (.edge cause)))) := by
  intro sh
  refine ⟨?_, ?_, fun root name cause h => ?_⟩
  · exact (Graph.Layered.lasting.turns team (List.Subset.refl _) Graph.Layered.empty).shaped
  · rw [Turn.graph_take]
    exact (Analysis.lasting_continues _ sh.graph).request (List.Subset.refl _)
      ⟨List.prefix_rfl, List.prefix_rfl⟩
  · exact Request.trace_ne_edge ((t.take_error_iff team sh).mp h)

end RoleGraph
