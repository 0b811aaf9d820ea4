import RoleGraph.Proofs.CallGraph
import RoleGraph.Proofs.GraphAdditions
import RoleGraph.Proofs.Outcome

/-!
# A playbook does not depend on the history

Whatever an analyzer was asked for before, and whether that succeeded or not, a playbook ends as on a
fresh analyzer, with the same error if it fails. Once it has succeeded everything that it runs has an
entry and a node, and nothing takes them away. From then on the playbook succeeds by its entries
alone and only adds the calls of its root.
-/

namespace RoleGraph

open Analysis (Progress Trace TaskFile RoleRef mainFile roleRefs rolesOf tasksDir)

namespace Analysis

variable {lib : Library} {opts : Options} {location : Text} {p q : Progress} {ref : RoleRef}

/-- Neither the memo nor the graph loses anything. -/
structure Progress.Grows (p q : Progress) : Prop where
  expanded : p.expanded ⊆ q.expanded
  ids : p.graph.ids ⊆ q.graph.ids

/-- A role loses nothing. -/
theorem grows_traceRole {caller : Node} {role : Text} {scope : Scope} :
    p.Grows (traceRole lib opts caller scope role p).after := by
  refine ⟨?_, ids_subset_traceRole⟩
  exact traceRole_preserves (P := fun q => p.expanded ⊆ q.expanded) lib opts caller scope role
    (fun _ _ _ hq => hq) (fun _ key hq => List.subset_cons_of_subset key hq) (List.Subset.refl _)

/-- A role that a playbook runs was followed to its end: its directory of tasks exists, and its main
task file has an entry and a node. -/
structure RoleRef.Followed (lib : Library) (opts : Options) (ref : RoleRef) (p : Progress) : Prop where
  dir_holds : lib.holds (tasksDir opts ref.role) = .ok true
  room : 0 < opts.maxDepth
  entry : TaskFile.key opts ⟨ref.role, ref.scope, mainFile⟩ ∈ p.expanded
  node : Node.taskId ref.role mainFile ∈ p.graph.ids

/-- The playbook at a location was followed to its end: it loads, its root is in the graph, and every
role that it runs was followed to its end. -/
def Followed (lib : Library) (opts : Options) (location : Text) (p : Progress) : Prop :=
  Node.playbookId location ∈ p.graph.ids ∧
    ∃ plays, lib.plays location = .ok plays ∧ ∀ ref ∈ roleRefs opts 0 plays, ref.Followed lib opts p

/-- What was followed to its end stays so. -/
theorem RoleRef.Followed.mono (h : ref.Followed lib opts p) (hgrows : p.Grows q) : ref.Followed lib opts q :=
  ⟨h.dir_holds, h.room, hgrows.expanded h.entry, hgrows.ids h.node⟩

/-- A role that succeeds was followed to its end. -/
theorem followed_traceRef {root : Node} (h : (traceRef lib opts root ref p).failure = none) :
    ref.Followed lib opts (traceRef lib opts root ref p).after := by
  obtain ⟨hdir, hmain, hrole⟩ := traceRole_done (traceRef_done h)
  obtain ⟨left, hleft, -⟩ := traceFile_done hmain
  simp only [traceRef, Trace.mapFailure, hrole]
  refine ⟨hdir, by omega, key_mem_traceFile hmain, ?_⟩
  have hid : (p.graph.stored (.task ref.role mainFile)).id = Node.taskId ref.role mainFile :=
    Graph.stored_id _ _
  exact Graph.mem_ids_link.mpr (Or.inr (Or.inl hid.symm))

/-- A playbook that succeeds was followed to its end. -/
theorem followed_tracePlaybook (h : (tracePlaybook lib opts location p).failure = none) :
    Followed lib opts location (tracePlaybook lib opts location p).after := by
  obtain ⟨plays, hplays, heach, heq⟩ := tracePlaybook_done h
  rw [heq]
  refine ⟨?_, plays, hplays, ?_⟩
  · refine Trace.each_preserves (P := fun q => Node.playbookId location ∈ q.graph.ids)
      (List.Subset.refl _) (Graph.mem_ids_addNode.mpr (Or.inr rfl)) fun ref _ q hq _ => ?_
    exact grows_traceRole.ids hq
  · exact Trace.each_establishes heach (List.Subset.refl _) (fun ref _ q hdone _ => followed_traceRef hdone)
      fun ref other _ q hq => hq.mono grows_traceRole

/-- A playbook takes nothing from another one that was followed to its end. -/
theorem Followed.tracePlaybook {other : Text} (h : Followed lib opts location p) :
    Followed lib opts location (tracePlaybook lib opts other p).after := by
  obtain ⟨hroot, plays, hplays, hrefs⟩ := h
  have hgrows : p.Grows (Analysis.tracePlaybook lib opts other p).after := by
    unfold Analysis.tracePlaybook
    split
    · exact ⟨List.Subset.refl _, List.Subset.refl _⟩
    · refine Trace.each_preserves (P := fun q => p.Grows q) (List.Subset.refl _)
        ⟨List.Subset.refl _, fun id hid => Graph.mem_ids_addNode.mpr (Or.inl hid)⟩ fun ref _ q hq _ => ?_
      exact ⟨List.Subset.trans hq.expanded grows_traceRole.expanded,
        List.Subset.trans hq.ids grows_traceRole.ids⟩
  exact ⟨hgrows.ids hroot, plays, hplays, fun ref href => (hrefs ref href).mono hgrows⟩

/-- The progress with some more edges. -/
def Progress.withEdges (p : Progress) (edges : List Edge) : Progress :=
  { p with graph := .ofLists p.graph.nodes (p.graph.edges ++ edges) }

/-- More edges take away nothing. -/
theorem Progress.grows_withEdges (p : Progress) (edges : List Edge) : p.Grows (p.withEdges edges) :=
  ⟨List.Subset.refl _, List.Subset.refl _⟩

/-- Edges are added one after the other. -/
theorem Progress.withEdges_withEdges (p : Progress) (xs ys : List Edge) :
    (p.withEdges xs).withEdges ys = p.withEdges (xs ++ ys) := by
  simp only [Progress.withEdges, Graph.nodes_ofLists, Graph.edges_ofLists, List.append_assoc]

/-- More edges change nothing about what is stored. -/
theorem Progress.stored_withEdges (p : Progress) (edges : List Edge) (n : Node) :
    (p.withEdges edges).graph.stored n = p.graph.stored n :=
  congrArg (·.getD n) (Graph.find?_congr (p.withEdges edges).graph p.graph rfl n.id)

/-- A role that was followed to its end succeeds by its entry and adds the call. -/
theorem RoleRef.Followed.traceRef {root : Node} (h : ref.Followed lib opts p) (hroot : root.id ∈ p.graph.ids) :
    (traceRef lib opts root ref p).failure = none ∧
      (Analysis.traceRef lib opts root ref p).after =
        p.withEdges [⟨p.graph.stored root, p.graph.stored (.task ref.role mainFile)⟩] := by
  have hmain : traceFile lib opts ref.role ref.scope opts.maxDepth [] mainFile p =
      { after := p, visits := [TaskFile.visit ⟨ref.role, ref.scope, mainFile⟩ opts [] p] } :=
    traceFile_known h.room List.not_mem_nil h.entry
  have hnode : (Node.task ref.role mainFile).id ∈ p.graph.ids := h.node
  have hlink : p.graph.link root (p.graph.stored (.task ref.role mainFile)) =
      (p.withEdges [⟨p.graph.stored root, p.graph.stored (.task ref.role mainFile)⟩]).graph := by
    rw [Graph.link_of_mem hroot (by rwa [Graph.stored_id]), Graph.join, Graph.stored_stored hnode]
    rfl
  simp only [Analysis.traceRef, traceRole, h.dir_holds, hmain]
  refine ⟨rfl, ?_⟩
  simp only [Trace.mapFailure, Trace.andThen, Option.map_none, Progress.link, hlink]
  rfl

/-- Roles that were followed to their ends succeed by their entries and add their calls. -/
theorem traceRefs_followed {root : Node} {refs : List RoleRef} (h : ∀ ref ∈ refs, ref.Followed lib opts p)
    (hroot : root.id ∈ p.graph.ids) :
    (Trace.each (traceRef lib opts root) refs p).failure = none ∧
      (Trace.each (traceRef lib opts root) refs p).after = p.withEdges (refs.map fun ref =>
        ⟨p.graph.stored root, p.graph.stored (.task ref.role mainFile)⟩) := by
  induction refs generalizing p with
  | nil => exact ⟨rfl, congrArg (Progress.mk · p.expanded) (Graph.ext rfl (List.append_nil _).symm)⟩
  | cons ref rest ih =>
    obtain ⟨hfail, hafter⟩ := (h ref List.mem_cons_self).traceRef hroot
    have hrest : ∀ other ∈ rest, other.Followed lib opts (traceRef lib opts root ref p).after := by
      rw [hafter]
      exact fun other hother => (h other (List.mem_cons_of_mem _ hother)).mono (p.grows_withEdges _)
    have hroot' : root.id ∈ (traceRef lib opts root ref p).after.graph.ids := by
      rw [hafter]
      exact hroot
    obtain ⟨hfail', hafter'⟩ := ih hrest hroot'
    refine ⟨Trace.andThen_failure_eq_none.mpr ⟨hfail, hfail'⟩, ?_⟩
    rw [Trace.each, Trace.andThen_done hfail, hafter', hafter]
    -- The nodes stay as they are, so the later edges join what is stored now.
    simp only [Progress.stored_withEdges]
    exact p.withEdges_withEdges _ _

/-- A playbook that was followed to its end succeeds again and only adds the calls of its root. -/
theorem Followed.again (h : Followed lib opts location p) :
    (Analysis.tracePlaybook lib opts location p).failure = none ∧
      ∃ plays, lib.plays location = .ok plays ∧
        (Analysis.tracePlaybook lib opts location p).after =
          p.withEdges ((plays.flatMap (rolesOf opts)).map fun role =>
            ⟨p.graph.stored (.playbook location), p.graph.stored (.task role mainFile)⟩) := by
  obtain ⟨hroot, plays, hplays, hrefs⟩ := h
  have hknown : p.root location = p := by rw [Progress.root, Graph.addNode_of_mem hroot]
  have hid : (p.graph.stored (.playbook location)).id = Node.playbookId location := Graph.stored_id _ _
  obtain ⟨hfail, hafter⟩ := traceRefs_followed hrefs (hid ▸ hroot)
  have htrace : Analysis.tracePlaybook lib opts location p =
      Trace.each (traceRef lib opts (p.graph.stored (.playbook location))) (roleRefs opts 0 plays) p := by
    simp only [Analysis.tracePlaybook, hplays, hknown]
  rw [htrace]
  refine ⟨hfail, plays, hplays, ?_⟩
  rw [hafter, Graph.stored_stored hroot, List.map_flatMap, List.map_eq_flatMap,
    flatMap_roleRefs fun role => (⟨p.graph.stored (.playbook location),
      p.graph.stored (.task role mainFile)⟩ : Edge)]

end Analysis

/-- A request gets past a playbook: the playbook is among those that are asked for, and it succeeds as
all those before it do. -/
def Request.Passes (a : Analyzer) (s : Site) (r : Request) (st : Analysis.State) (book : Text) : Prop :=
  ∃ done l rest, r.locations a s = .ok (done ++ l :: rest) ∧ Location.normalize s.cwd l = book ∧
    (((done ++ [l]).forM fun l => (Request.playbook l).perform a s).run st).1 = .ok ()

namespace Analyzer

variable (a : Analyzer) (s : Site)

/-- A playbook succeeded in a history. -/
def Succeeded (requests : List Request) (st : Analysis.State) (book : Text) : Prop :=
  ∃ before r after, requests = before ++ r :: after ∧ r.Passes a s (a.afterAll s before st) book

/-- A request keeps what was followed to its end. -/
theorem followed_trace {locations : List Text} {book : Text} {p : Progress}
    (h : Analysis.Followed s.library a.options book p) :
    Analysis.Followed s.library a.options book (Trace.each (Request.traceAt a s) locations p).after :=
  Trace.each_preserves (P := fun q => Analysis.Followed s.library a.options book q) (List.Subset.refl _) h
    fun _ _ _ hq _ => hq.tracePlaybook

/-- A request that gets past a playbook leaves it followed to its end, however the request ends. -/
theorem followed_of_passes {r : Request} {st : Analysis.State} {book : Text} (h : r.Passes a s st book) :
    Analysis.Followed s.library a.options book (r.trace a s st.progress).after := by
  obtain ⟨done, l, rest, hlocations, rfl, hok⟩ := h
  have hmirrors : Analysis.Mirrors ((done ++ [l]).forM fun l => (Request.playbook l).perform a s) st
      (Trace.each (Request.traceAt a s) (done ++ [l]) st.progress) () :=
    Analysis.Mirrors.forM (K := fun _ => True) (fun _ _ _ => trivial)
      (fun location st' _ => mirrors_traceAt a s location st') _ trivial
  have hfirst := hmirrors.success.mp hok
  have hsplit : r.trace a s st.progress =
      (Trace.each (Request.traceAt a s) (done ++ [l]) st.progress).andThen
        (Trace.each (Request.traceAt a s) rest) := by
    rw [← Trace.each_append, List.append_assoc, List.singleton_append]
    simp only [Request.trace, hlocations]
  rw [hsplit, Trace.andThen_done hfirst]
  refine followed_trace a s ?_
  rw [Trace.each_append] at hfirst ⊢
  obtain ⟨hbefore, hlast⟩ := Trace.andThen_failure_eq_none.mp hfirst
  rw [Trace.andThen_done hbefore]
  have hsingle := Request.trace_playbook a s l (Trace.each (Request.traceAt a s) done st.progress).after
  change Trace.each (Request.traceAt a s) [l] _ = _ at hsingle
  rw [hsingle] at hlast ⊢
  refine Analysis.followed_tracePlaybook ?_
  simpa [Request.traceAt, Trace.mapFailure] using hlast

/-- A playbook that succeeded in a history is followed to its end after it. -/
theorem followed_of_succeeded {requests : List Request} {st : Analysis.State} {book : Text}
    (h : a.Succeeded s requests st book) :
    Analysis.Followed s.library a.options book (a.afterAll s requests st).progress := by
  obtain ⟨before, r, after, rfl, hpasses⟩ := h
  have hafter : a.afterAll s (before ++ r :: after) st =
      a.afterAll s after ((r.perform a s).run (a.afterAll s before st)).2 := List.foldl_append
  have hprogress := (mirrors_perform a s r (a.afterAll s before st)).progress
  rw [hafter, progress_afterAll, hprogress]
  exact history_preserves a s (P := fun q => Analysis.Followed s.library a.options book q)
    (List.Subset.refl _) (followed_of_passes a s hpasses) fun _ _ hq _ => hq.tracePlaybook

/-- After any requests, a playbook ends as it does without a memo, as long as the visits so far are
coherent. If it succeeded before, it succeeds again, adds no node and adds one edge from its root for
each role that it runs. -/
theorem playbook_outcome_independent (start fresh : Analysis.State) (hstart : start.expanded = [])
    (hfresh : fresh.expanded = []) (requests : List Request) (location : Text)
    (hvisits : Analysis.Coherent a.options
      (a.history s (requests ++ [.playbook location]) start.progress).visits) :
    let st := a.afterAll s requests start
    let book := Location.normalize s.cwd location
    ((a.playbook s location).run st).1 = ((a.playbook s location).run fresh).1 ∧
      (a.Succeeded s requests start book →
        ((a.playbook s location).run st).1 = .ok () ∧
        ((a.playbook s location).run st).2.graph.nodes = st.graph.nodes ∧
        ∃ plays, s.library.plays book = .ok plays ∧
          ((a.playbook s location).run st).2.graph.edges =
            st.graph.edges ++ (plays.flatMap (rolesOf a.options)).map fun role =>
              ⟨st.graph.stored (.playbook book), st.graph.stored (.task role mainFile)⟩) := by
  intro st book
  have hmirrors := Analysis.mirrors_followPlaybook s.library a.options book st
  have hmirrors' := Analysis.mirrors_followPlaybook s.library a.options book fresh
  constructor
  · obtain ⟨-, hsplit⟩ := a.history_playbook s requests location start.progress
    rw [hsplit] at hvisits
    have hst := a.replayed_history s hstart hvisits (List.subset_append_left _ _)
    rw [← progress_afterAll] at hst hvisits
    have hnone : fresh.progress.expanded = [] := hfresh
    have hmatch := Analysis.tracePlaybook_matches hvisits hst (.of_nil hnone) (List.subset_append_right _ _)
    exact (hmirrors.result.trans (by rw [hmatch.failure])).trans hmirrors'.result.symm
  · intro hsucceeded
    obtain ⟨hfail, plays, hplays, hafter⟩ := (a.followed_of_succeeded s hsucceeded).again
    have hgraph : ((a.playbook s location).run st).2.graph = _ :=
      congrArg Progress.graph (hmirrors.progress.trans hafter)
    rw [hgraph]
    exact ⟨hmirrors.success.mpr hfail, rfl, plays, hplays, rfl⟩

end Analyzer

/-- A site with two playbooks that run the same role; under the variables of the first one the last
include of the role leads to a file that is missing. -/
def interruptedSite : Site := .ofRole
  [("bad.yml", "- vars:\n    next: gone.yml\n  roles: [r]\n"),
   ("good.yml", "- vars:\n    next: b.yml\n  roles: [r]\n")]
  [("main.yml", "- include_tasks: a.yml\n- include_tasks: '\x7b\x7b next \x7d\x7d'\n"),
   ("a.yml", "- include_tasks: b.yml\n"),
   ("b.yml", "")]

/-- Both playbooks, the one that fails first. -/
def interruptedRequests : List Request := [.playbook "/bad.yml", .playbook "/good.yml"]

/-- The failure of the first playbook leaves two entries, and it fails in the same way again. The second
one, which succeeded, succeeds again with one more edge. -/
theorem Analyzer.playbook_outcome_independent_interrupted :
    let st := Analyzer.ofRole.afterAll interruptedSite interruptedRequests {}
    ((Analyzer.ofRole.playbook interruptedSite "/bad.yml").run {}).2.expanded.length = 2 ∧
      ((Analyzer.ofRole.playbook interruptedSite "/bad.yml").run {}).1.isOk = false ∧
      ((Analyzer.ofRole.playbook interruptedSite "/bad.yml").run st).1 =
        ((Analyzer.ofRole.playbook interruptedSite "/bad.yml").run {}).1 ∧
      ((Analyzer.ofRole.playbook interruptedSite "/good.yml").run st).1 = .ok () ∧
      ((Analyzer.ofRole.playbook interruptedSite "/good.yml").run st).2.graph.nodes = st.graph.nodes ∧
      ((Analyzer.ofRole.playbook interruptedSite "/good.yml").run st).2.graph.edges.length =
        st.graph.edges.length + 1 := by
  -- One evaluation for all, since the runs are the same.
  obtain ⟨hleft, hfails, hok, hroles, hvisits, hvisits'⟩ :
      ((Analyzer.ofRole.playbook interruptedSite "/bad.yml").run {}).2.expanded.length = 2 ∧
        ((Analyzer.ofRole.playbook interruptedSite "/bad.yml").run {}).1.isOk = false ∧
        ((["/good.yml"].forM fun l => (Request.playbook l).perform Analyzer.ofRole interruptedSite).run
          (Analyzer.ofRole.afterAll interruptedSite [.playbook "/bad.yml"] {})).1 = .ok () ∧
        ((interruptedSite.library.plays (Location.normalize interruptedSite.cwd "/good.yml")).toOption.map
          fun plays => (plays.flatMap (rolesOf Analyzer.ofRole.options)).length) = some 1 ∧
        Analysis.Coherent Analyzer.ofRole.options (Analyzer.ofRole.history interruptedSite
          (interruptedRequests ++ [.playbook "/bad.yml"]) ({} : Analysis.State).progress).visits ∧
        Analysis.Coherent Analyzer.ofRole.options (Analyzer.ofRole.history interruptedSite
          (interruptedRequests ++ [.playbook "/good.yml"]) ({} : Analysis.State).progress).visits := by
    decide +kernel
  obtain ⟨hbad, -⟩ := Analyzer.ofRole.playbook_outcome_independent interruptedSite {} {} rfl rfl
    interruptedRequests "/bad.yml" hvisits
  obtain ⟨-, hgood⟩ := Analyzer.ofRole.playbook_outcome_independent interruptedSite {} {} rfl rfl
    interruptedRequests "/good.yml" hvisits'
  obtain ⟨hdone, hnodes, plays, hplays, hedges⟩ := hgood ⟨[.playbook "/bad.yml"], .playbook "/good.yml",
    [], rfl, [], "/good.yml", [], rfl, rfl, hok⟩
  have hcount : (plays.flatMap (rolesOf Analyzer.ofRole.options)).length = 1 := by
    rw [hplays] at hroles
    exact Option.some.inj hroles
  refine ⟨hleft, hfails, hbad, hdone, hnodes, ?_⟩
  rw [hedges, List.length_append, List.length_map, hcount]

end RoleGraph
