import Mathlib.Data.List.Basic
import RoleGraph.Proofs.History

/-!
# The exact call graph

A request that succeeds makes entries in the memo for some task files that it visits, and it adds
exactly the calls of these files besides the calls of playbooks. Since the memo has every entry once
and is closed under includes, the calls of a history without failures are those of the playbooks and,
for every location that is reached under some variables, those of its file once. The nodes are the
roots and the ends of these calls.
-/

namespace RoleGraph

namespace Analysis

/-- The call that an include of a task file makes when it resolves. -/
def TaskFile.call? (f : TaskFile) (target : Text) : Option (Text × Text) :=
  (f.scope.resolve target).toOption.map fun file => (f.id, Node.taskId f.role file)

/-- The calls of a task file, one for each of its includes. -/
def TaskFile.outgoing (lib : Library) (opts : Options) (f : TaskFile) : List (Text × Text) :=
  match lib.tasks (f.location opts) with
  | .error _ => []
  | .ok tasks => (Task.includes opts.includeKeys tasks).filterMap f.call?

/-- The calls of the playbook at a location, one for each role that it runs. -/
def rootCalls (lib : Library) (opts : Options) (location : Text) : List (Text × Text) :=
  match lib.plays location with
  | .error _ => []
  | .ok plays => plays.flatMap fun play =>
      (rolesOf opts play).map fun role => (Node.playbookId location, Node.taskId role mainFile)

/-- From `p` to `q` entries were made for visited files, and their calls and some others were added. -/
def Adds (lib : Library) (opts : Options) (V : List Visit) (p : Progress) (others : List (Text × Text))
    (q : Progress) : Prop :=
  ∃ new : List TaskFile, q.expanded = new.map (·.key opts) ++ p.expanded ∧
    (∀ f ∈ new, ∃ v ∈ V, v.toTaskFile = f) ∧
    q.graph.calls.Perm (p.graph.calls ++ (others ++ new.flatMap (·.outgoing lib opts)))

variable {lib : Library} {opts : Options} {role : Text} {scope : Scope} {room : ℕ} {trail : List Text}
  {file location : Text} {p q r : Progress} {V : List Visit} {xs ys : List (Text × Text)}

namespace Adds

/-- Nothing is added by doing nothing. -/
theorem refl (p : Progress) : Adds lib opts V p [] p := ⟨[], rfl, by simp, by simp⟩

/-- What is added in two parts adds up. -/
theorem trans (h : Adds lib opts V p xs q) (h' : Adds lib opts V q ys r) :
    Adds lib opts V p (xs ++ ys) r := by
  obtain ⟨new, hentries, hvisited, hcalls⟩ := h
  obtain ⟨new', hentries', hvisited', hcalls'⟩ := h'
  refine ⟨new' ++ new, ?_, ?_, ?_⟩
  · rw [hentries', hentries, List.map_append, List.append_assoc]
  · intro f hf
    rcases List.mem_append.mp hf with hf | hf
    · exact hvisited' f hf
    · exact hvisited f hf
  · rw [List.perm_iff_count] at hcalls hcalls' ⊢
    intro c
    have hc := hcalls c
    have hc' := hcalls' c
    simp only [List.flatMap_append, List.count_append] at hc hc' ⊢
    omega

/-- A link adds its call. -/
theorem link (h : Adds lib opts V p xs q) (source target : Node) :
    Adds lib opts V p (xs ++ [(source.id, target.id)]) (q.link source target) := by
  refine h.trans ⟨[], rfl, by simp, ?_⟩
  simp [Progress.link]

/-- The entry of a visited file stands for the calls that it made. -/
theorem mark (h : Adds lib opts V p xs q) {v : Visit} (hv : v ∈ V)
    (hcalls : xs.Perm (v.toTaskFile.outgoing lib opts)) : Adds lib opts V p [] (q.mark (v.key opts)) := by
  obtain ⟨new, hentries, hvisited, hperm⟩ := h
  refine ⟨v.toTaskFile :: new, ?_, ?_, ?_⟩
  · rw [Progress.mark, hentries]
    rfl
  · intro f hf
    rcases List.mem_cons.mp hf with rfl | hf
    · exact ⟨v, hv, rfl⟩
    · exact hvisited f hf
  · rw [List.flatMap_cons, List.nil_append]
    exact hperm.trans ((hcalls.append_right _).append_left _)

end Adds

/-- An include that succeeds adds the call that it makes. -/
theorem adds_traceInclude {f : TaskFile} {source : Node} {child : Text → Progress → Trace ExpandError}
    {target : Text} (hsource : source.id = f.id)
    (hchild : ∀ next, (child next p).failure = none → (child next p).visits ⊆ V →
      Adds lib opts V p [] (child next p).after)
    (h : (traceInclude f.role location f.scope source child target p).failure = none)
    (hV : (traceInclude f.role location f.scope source child target p).visits ⊆ V) :
    Adds lib opts V p (f.call? target).toList
      (traceInclude f.role location f.scope source child target p).after := by
  obtain ⟨next, hresolve, hdone, heq⟩ := traceInclude_done h
  rw [heq] at hV ⊢
  have hcall : (f.call? target).toList = [] ++ [(source.id, (p.graph.stored (.task f.role next)).id)] := by
    rw [TaskFile.call?, resolve_toOption_eq_some.mpr hresolve, hsource, Graph.stored_id]
    rfl
  rw [hcall]
  exact (hchild next hdone hV).link _ _

/-- A task file that succeeds adds the calls of the files that it makes entries for. -/
theorem adds_traceFile (h : (traceFile lib opts role scope room trail file p).failure = none)
    (hV : (traceFile lib opts role scope room trail file p).visits ⊆ V) :
    Adds lib opts V p [] (traceFile lib opts role scope room trail file p).after := by
  induction room generalizing trail file p with
  | zero =>
    obtain ⟨left, hleft, -⟩ := traceFile_done h
    omega
  | succ room ih =>
    obtain ⟨left, hleft, -, ⟨-, heq⟩ | ⟨-, hbody, heq⟩⟩ := traceFile_done h
    · rw [heq]
      exact Adds.refl p
    · obtain rfl : room = left := by omega
      obtain ⟨tasks, htasks, hfault, heach, hafter⟩ := traceBody_done hbody
      rw [heq, hafter] at hV ⊢
      obtain ⟨hv, hVeach⟩ := List.cons_subset.mp hV
      have hincludes := Trace.each_accumulates (R := fun xs q => Adds lib opts V p xs q) heach hVeach
        (Adds.refl p) fun target _ q ys hq hdone hVq =>
          hq.trans (adds_traceInclude (by rw [Graph.stored_id]; rfl) (fun next => ih) hdone hVq)
      apply hincludes.mark hv
      have htargets := (Task.scan_targets_perm hfault).filterMap
        (TaskFile.call? ⟨role, scope, file⟩)
      rw [List.filterMap_eq_flatMap_toList] at htargets
      simpa [TaskFile.outgoing, htasks, TaskFile.visit] using htargets

/-- A role that succeeds adds the call to its main task file. -/
theorem adds_traceRole {caller : Node} (h : (traceRole lib opts caller scope role p).failure = none)
    (hV : (traceRole lib opts caller scope role p).visits ⊆ V) :
    Adds lib opts V p [(caller.id, Node.taskId role mainFile)]
      (traceRole lib opts caller scope role p).after := by
  obtain ⟨-, hmain, heq⟩ := traceRole_done h
  rw [heq] at hV ⊢
  have hlink := (adds_traceFile hmain hV).link caller (p.graph.stored (.task role mainFile))
  rwa [Graph.stored_id] at hlink

/-- The roles that plays run, in order, are the roles of the plays in order. -/
theorem flatMap_roleRefs {γ : Type} (g : Text → γ) (index : ℕ) (plays : List Play) :
    (roleRefs opts index plays).flatMap (fun ref => [g ref.role]) =
      plays.flatMap fun play => (rolesOf opts play).map g := by
  induction plays generalizing index with
  | nil => rfl
  | cons play rest ih =>
    rw [roleRefs_cons, List.flatMap_append, ih, List.flatMap_map, ← List.map_eq_flatMap, List.flatMap_cons]

/-- A playbook that succeeds adds its calls. -/
theorem adds_tracePlaybook (h : (tracePlaybook lib opts location p).failure = none)
    (hV : (tracePlaybook lib opts location p).visits ⊆ V) :
    Adds lib opts V p (rootCalls lib opts location) (tracePlaybook lib opts location p).after := by
  obtain ⟨plays, hplays, heach, heq⟩ := tracePlaybook_done h
  rw [heq] at hV ⊢
  have hroot : Adds lib opts V p [] (p.root location) := by
    refine ⟨[], rfl, by simp, ?_⟩
    simp [Progress.root]
  have hroles := Trace.each_accumulates (R := fun xs q => Adds lib opts V p xs q) heach hV hroot
    fun ref _ q ys hq hdone hVq => hq.trans (adds_traceRole (traceRef_done hdone) hVq)
  rw [List.nil_append, Graph.stored_id,
    flatMap_roleRefs fun role => ((Node.playbook location).id, Node.taskId role mainFile)] at hroles
  simp only [rootCalls, hplays]
  exact hroles

/-- A playbook that succeeds adds its root to the roots that the graph spans. -/
theorem spans_tracePlaybook {roots : List Text} (h : (tracePlaybook lib opts location p).failure = none)
    (hspans : p.graph.Spans roots) :
    (tracePlaybook lib opts location p).after.graph.Spans (roots ++ [Node.playbookId location]) := by
  obtain ⟨plays, -, -, heq⟩ := tracePlaybook_done h
  rw [heq]
  refine Trace.each_preserves (P := fun q => q.graph.Spans (roots ++ [Node.playbookId location]))
    (List.Subset.refl _) (hspans.addNode (.playbook location)) ?_
  intro ref _ q hq _
  exact traceRole_preserves (P := fun q => q.graph.Spans (roots ++ [Node.playbookId location])) lib opts
    _ _ _ (fun _ source target hq => hq.link source target) (fun _ _ hq => hq) hq

/-- A task file that the playbooks at some locations reach: the main task file of a role that one of
them runs, or a file that a reached one includes. -/
inductive TaskFile.Reached (lib : Library) (opts : Options) (locations : List Text) : TaskFile → Prop where
  | main {location role : Text} {scope : Scope} (h : location ∈ locations)
      (hruns : RunsRole lib opts location role scope) : Reached lib opts locations ⟨role, scope, mainFile⟩
  | included {f : TaskFile} {file : Text} (hf : Reached lib opts locations f)
      (h : Includes lib opts f.scope (f.location opts) file) :
      Reached lib opts locations ⟨f.role, f.scope, file⟩

/-- What is visited from a reached file is reached. -/
theorem traceFile_visits_reached {locations : List Text} {v : Visit}
    (hfile : TaskFile.Reached lib opts locations ⟨role, scope, file⟩)
    (hv : v ∈ (traceFile lib opts role scope room trail file p).visits) :
    v.toTaskFile.Reached lib opts locations := by
  induction room generalizing trail file p with
  | zero =>
    rcases mem_visits_traceFile hv with rfl | ⟨left, _, _, hleft, -⟩
    · exact hfile
    · omega
  | succ room ih =>
    rcases mem_visits_traceFile hv with rfl | ⟨left, next, q, hleft, -, hnext, hv⟩
    · exact hfile
    · obtain rfl : room = left := by omega
      exact ih (.included hfile hnext) hv

/-- What a playbook visits is reached. -/
theorem tracePlaybook_visits_reached {locations : List Text} {v : Visit} (hlocation : location ∈ locations)
    (hv : v ∈ (tracePlaybook lib opts location p).visits) : v.toTaskFile.Reached lib opts locations := by
  obtain ⟨role, scope, q, hruns, hv⟩ := mem_visits_tracePlaybook hv
  exact traceFile_visits_reached (.main hlocation hruns) hv

/-- What is found once the playbooks at some locations succeeded one after the other. -/
structure Recorded (lib : Library) (opts : Options) (V : List Visit) (locations : List Text)
    (q : Progress) : Prop where
  adds : Adds lib opts V {} (locations.flatMap (rootCalls lib opts)) q
  spans : q.graph.Spans (locations.map Node.playbookId)
  loads : ∀ location ∈ locations, ∃ plays, lib.plays location = .ok plays
  covers : ∀ location ∈ locations, ∀ role scope, RunsRole lib opts location role scope →
    TaskFile.Covered opts V q.expanded ⟨role, scope, mainFile⟩

/-- Nothing is recorded at first. -/
theorem recorded_nil : Recorded lib opts V [] {} :=
  ⟨Adds.refl {}, Graph.spans_empty, by simp, by simp⟩

/-- One more playbook that succeeds is recorded. -/
theorem Recorded.playbook {locations : List Text} (h : Recorded lib opts V locations p)
    (hdone : (tracePlaybook lib opts location p).failure = none)
    (hV : (tracePlaybook lib opts location p).visits ⊆ V) :
    Recorded lib opts V (locations ++ [location]) (tracePlaybook lib opts location p).after := by
  have hadds := adds_tracePlaybook hdone hV
  have hkept : p.expanded ⊆ (tracePlaybook lib opts location p).after.expanded := by
    obtain ⟨new, hentries, -⟩ := hadds
    rw [hentries]
    exact List.subset_append_right _ _
  refine ⟨?_, ?_, ?_, ?_⟩
  · rw [List.flatMap_append, List.flatMap_singleton]
    exact h.adds.trans hadds
  · rw [List.map_append]
    exact spans_tracePlaybook hdone h.spans
  · intro l hl
    rcases List.mem_append.mp hl with hl | hl
    · exact h.loads l hl
    · obtain ⟨plays, hplays, -⟩ := tracePlaybook_done hdone
      exact ⟨plays, List.mem_singleton.mp hl ▸ hplays⟩
  · intro l hl role scope hruns
    rcases List.mem_append.mp hl with hl | hl
    · obtain ⟨hvisited, hkey⟩ := h.covers l hl role scope hruns
      exact ⟨hvisited, hkept hkey⟩
    · obtain rfl := List.mem_singleton.mp hl
      obtain ⟨-, v, hv, hmain, -⟩ := tracePlaybook_visits_main hdone hruns
      exact ⟨⟨v, hV hv, hmain⟩, mainKey_mem_tracePlaybook hdone hruns⟩

/-- Visits to one location have one role and one base name, and a fingerprint has one set of variables. -/
structure Consistent (opts : Options) (V : List Visit) : Prop extends Coherent opts V where
  base : ∀ v ∈ V, ∀ w ∈ V, v.location opts = w.location opts →
    Location.base v.file = Location.base w.file

/-- Whether visits are consistent is found pair by pair. -/
instance (opts : Options) (V : List Visit) : Decidable (Consistent opts V) :=
  decidable_of_iff (Coherent opts V ∧ ∀ v ∈ V, ∀ w ∈ V, v.location opts = w.location opts →
      Location.base v.file = Location.base w.file)
    ⟨fun ⟨hcoherent, hbase⟩ => ⟨hcoherent, hbase⟩, fun h => ⟨h.toCoherent, h.base⟩⟩

/-- A graph has exactly the calls of the playbooks at some locations and of the files that they reach,
where `files` has one file for every reached location and variables. -/
structure IsCallGraph (lib : Library) (opts : Options) (locations : List Text) (files : List TaskFile)
    (g : Graph) : Prop where
  loads : ∀ location ∈ locations, ∃ plays, lib.plays location = .ok plays
  reached : ∀ f ∈ files, f.Reached lib opts locations
  complete : ∀ f : TaskFile, f.Reached lib opts locations →
    ∃ f' ∈ files, f'.location opts = f.location opts ∧ f'.scope = f.scope ∧ f'.id = f.id
  distinct : (files.map fun f => (f.location opts, f.scope)).Nodup
  /-- Every include of a file resolves, so each of them makes a call. -/
  resolves : ∀ f ∈ files, ∃ tasks, lib.tasks (f.location opts) = .ok tasks ∧
    ∀ target ∈ Task.includes opts.includeKeys tasks, ∃ file, f.scope.resolve target = .ok file
  calls : g.calls.Perm (locations.flatMap (rootCalls lib opts) ++ files.flatMap (·.outgoing lib opts))
  /-- The nodes are the roots of the playbooks and the ends of the calls, each of them once. -/
  spans : g.Spans (locations.map Node.playbookId)

/-- Everything that recorded playbooks reach is covered by a settled memo. -/
theorem Recorded.covered {locations : List Text} (h : Recorded lib opts V locations q)
    (hsettled : Settled lib opts V q.expanded) (hV : Coherent opts V) {f : TaskFile}
    (hf : f.Reached lib opts locations) : f.Covered opts V q.expanded := by
  induction hf with
  | main hlocation hruns => exact h.covers _ hlocation _ _ hruns
  | included _ hnext ih =>
    obtain ⟨tasks, hsound⟩ := hsettled.soundOver hV ih
    exact hsound.covered hnext

/-- Recorded playbooks whose visits are consistent have the exact graph. -/
theorem Recorded.isCallGraph {locations : List Text} (h : Recorded lib opts V locations q)
    (hsettled : Settled lib opts V q.expanded) (hV : Consistent opts V)
    (hreached : ∀ v ∈ V, v.toTaskFile.Reached lib opts locations) :
    ∃ files, IsCallGraph lib opts locations files q.graph := by
  obtain ⟨files, hentries, hvisited, hcalls⟩ := h.adds
  have hmemo : q.expanded = files.map (·.key opts) := by rw [hentries]; simp
  refine ⟨files, h.loads, ?_, ?_, ?_, ?_, hcalls, h.spans⟩
  · intro f hf
    obtain ⟨v, hv, rfl⟩ := hvisited f hf
    exact hreached v hv
  · intro f hf
    obtain ⟨⟨v, hv, rfl⟩, hkey⟩ := h.covered hsettled hV.toCoherent hf
    rw [hmemo] at hkey
    obtain ⟨f', hf', hsame⟩ := List.mem_map.mp hkey
    obtain ⟨w, hw, rfl⟩ := hvisited f' hf'
    have hlocation : w.location opts = v.location opts := congrArg Prod.fst hsame
    have hscope : w.scope = v.scope := hV.scope w hw v hv (congrArg Prod.snd hsame)
    refine ⟨w.toTaskFile, hf', hlocation, hscope, ?_⟩
    simp only [TaskFile.id, Node.taskId]
    rw [hV.role w hw v hv hlocation, hV.base w hw v hv hlocation]
  · -- The keys of the memo are made of the pairs, and no key stands there twice.
    have hkeys : files.map (·.key opts) =
        (files.map fun f => (f.location opts, f.scope)).map fun k => (k.1, k.2.fingerprint) := by
      rw [List.map_map]
      rfl
    have hnodup := hsettled.nodup
    rw [hmemo, hkeys] at hnodup
    exact hnodup.of_map _
  · intro f hf
    have hcovered : f.Covered opts V q.expanded :=
      ⟨hvisited f hf, hmemo ▸ List.mem_map.mpr ⟨f, hf, rfl⟩⟩
    obtain ⟨tasks, hsound⟩ := hsettled.soundOver hV.toCoherent hcovered
    refine ⟨tasks, hsound.loads, fun target htarget => ?_⟩
    obtain ⟨next, hresolve, -⟩ := hsound.includes target htarget
    exact ⟨next, hresolve⟩

end Analysis

open Analysis (Progress Visit Trace Mirrors Recorded)

namespace Analyzer

variable (a : Analyzer) (s : Site)

/-- A request that succeeds records its playbooks. -/
theorem recorded_request {r : Request} {V : List Visit} {locations : List Text} {p : Progress}
    (h : Recorded s.library a.options V locations p) (hdone : (r.trace a s p).failure = none)
    (hV : (r.trace a s p).visits ⊆ V) :
    Recorded s.library a.options V (locations ++ r.playbooks a s) (r.trace a s p).after := by
  cases hlocations : r.locations a s with
  | error e => simp [Request.trace, hlocations] at hdone
  | ok ls =>
    simp only [Request.trace, Request.playbooks, hlocations] at hdone hV ⊢
    rw [List.map_eq_flatMap]
    refine Trace.each_accumulates (R := Recorded s.library a.options V) hdone hV h ?_
    intro l _ q found hq hl hVl
    have hplaybook : (Analysis.tracePlaybook s.library a.options (Location.normalize s.cwd l) q).failure =
        none := by simpa [Request.traceAt, Trace.mapFailure] using hl
    exact hq.playbook hplaybook hVl

/-- Requests that succeed record their playbooks. -/
theorem recorded_requests {requests : List Request} {V : List Visit}
    (h : (Trace.each (fun r => r.trace a s) requests {}).failure = none)
    (hV : (Trace.each (fun r => r.trace a s) requests {}).visits ⊆ V) :
    Recorded s.library a.options V (requests.flatMap (·.playbooks a s))
      (Trace.each (fun r => r.trace a s) requests {}).after := by
  have hall := Trace.each_accumulates (R := Recorded s.library a.options V) h hV Analysis.recorded_nil
    fun r _ q found hq hr hVr => recorded_request a s hq hr hVr
  rwa [List.nil_append] at hall

/-- What a history visits is reached from the playbooks it was asked for. -/
theorem history_visits_reached {requests : List Request} {p : Progress} {v : Visit}
    (hv : v ∈ (a.history s requests p).visits) :
    v.toTaskFile.Reached s.library a.options (requests.flatMap (·.playbooks a s)) := by
  obtain ⟨r, hr, q, hv⟩ := Trace.mem_visits_each hv
  change v ∈ (r.trace a s q).visits at hv
  unfold Request.trace at hv
  split at hv
  · simp at hv
  · rename_i locations hlocations
    obtain ⟨l, hl, q', hv⟩ := Trace.mem_visits_each hv
    refine Analysis.tracePlaybook_visits_reached ?_ hv
    refine List.mem_flatMap.mpr ⟨r, hr, ?_⟩
    simp only [Request.playbooks, hlocations]
    exact List.mem_map.mpr ⟨l, hl, rfl⟩

/-- Requests that succeed one after the other, from nothing, leave exactly the graph of the playbooks
that were asked for, as long as their visits are consistent. -/
theorem requests_callGraph_exact (requests : List Request)
    (h : ((requests.forM fun r => r.perform a s).run {}).1 = .ok ())
    (hvisits : Analysis.Consistent a.options (a.history s requests {}).visits) :
    ∃ files, Analysis.IsCallGraph s.library a.options (requests.flatMap (·.playbooks a s)) files
      ((requests.forM fun r => r.perform a s).run {}).2.graph := by
  have hmirror := Mirrors.forM (K := fun _ => True) (fun _ _ _ => trivial)
    (fun r st _ => mirrors_perform a s r st) requests (s := {}) trivial
  have hdone := hmirror.success.mp h
  have hgraph : ((requests.forM fun r => r.perform a s).run {}).2.graph =
      (Trace.each (fun r => r.trace a s) requests {}).after.graph := congrArg Progress.graph hmirror.progress
  have hhistory : a.history s requests {} = _ := Trace.each_recovered hdone
  have hrecorded := recorded_requests a s hdone (List.Subset.refl _)
  have hsettled := settled_history a s (p := {}) rfl requests
  have hreached := fun v => @history_visits_reached a s requests {} v
  rw [hhistory] at hvisits hsettled hreached
  rw [hgraph]
  exact hrecorded.isCallGraph hsettled hvisits hreached

/-- A site with a playbook that runs its role without and with variables; one file is included again
inside a block, under another spelling. -/
def twoScopesSite : Site := .ofRole
  [("p.yml", "- roles: [r]\n- vars:\n    x: y\n  roles: [r]\n")]
  [("main.yml", "- include_tasks: a.yml\n- block:\n  - include_tasks: ./a.yml\n"),
   ("a.yml", "- include_tasks: b.yml\n"),
   ("b.yml", "")]

/-- The playbook of the site, asked for twice. -/
def twoScopesRequests : List Request := [.playbook "/p.yml", .playbook "/p.yml"]

/-- The graph of the site is exact: it has four calls of the playbook, and three calls of files under
each of the two sets of variables. -/
theorem requests_callGraph_exact_twoScopes :
    ((twoScopesRequests.forM fun r => r.perform Analyzer.ofRole twoScopesSite).run {}).2.graph.calls.length =
        10 ∧
      ∃ files, Analysis.IsCallGraph twoScopesSite.library Analyzer.ofRole.options
        (twoScopesRequests.flatMap (·.playbooks Analyzer.ofRole twoScopesSite)) files
        ((twoScopesRequests.forM fun r => r.perform Analyzer.ofRole twoScopesSite).run {}).2.graph := by
  obtain ⟨hok, hlength, hvisits⟩ :
      ((twoScopesRequests.forM fun r => r.perform Analyzer.ofRole twoScopesSite).run {}).1.isOk = true ∧
        ((twoScopesRequests.forM fun r => r.perform Analyzer.ofRole twoScopesSite).run {}).2.graph.calls.length =
          10 ∧
        Analysis.Consistent Analyzer.ofRole.options
          (Analyzer.ofRole.history twoScopesSite twoScopesRequests {}).visits := by decide +kernel
  exact ⟨hlength, requests_callGraph_exact Analyzer.ofRole twoScopesSite twoScopesRequests
    (Analysis.eq_ok_of_isOk hok) hvisits⟩

end Analyzer

end RoleGraph
