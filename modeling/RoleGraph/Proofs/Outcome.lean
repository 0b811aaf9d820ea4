import RoleGraph.Proofs.History
import RoleGraph.Proofs.Rerun

/-!
# The outcome of a playbook

While the visits are coherent, the files of a role get their entries from the runs of that role only,
and every run of it starts at its main task file. So for each role and each set of variables a memo
has one of two forms: no entry, or the entries of a first run, which may have failed. From the first
form a run is the first run, and from the second one it repeats it. In both cases it ends as the
first run ends and leaves the second form, and this holds of whole playbooks role by role.
-/

namespace RoleGraph

namespace Analysis

namespace Agree

variable {K : Set (Text × UInt64)} {memo memo' memo'' : List (Text × UInt64)}

/-- Agreement goes both ways. -/
theorem symm (h : Agree K memo memo') : Agree K memo' memo := fun key hkey => (h key hkey).symm

/-- Agreement is passed on. -/
theorem trans (h : Agree K memo memo') (h' : Agree K memo' memo'') : Agree K memo memo'' :=
  fun key hkey => (h key hkey).trans (h' key hkey)

end Agree

namespace Trace

variable {ε ε' β : Type} {V : List Visit} {K : Set (Text × UInt64)} {t t' : Trace ε}

/-- The files of a trace are among those of some visits. -/
def FilesIn (V : List Visit) (t : Trace ε) : Prop :=
  ∀ v ∈ t.visits, ∃ w ∈ V, w.toTaskFile = v.toTaskFile

/-- Traces that are alike have the same files. -/
theorem Alike.filesIn (h : t.Alike K t') (ht : t.FilesIn V) : t'.FilesIn V := by
  intro v hv
  have hfile : v.toTaskFile ∈ t.visits.map (·.toTaskFile) := h.visits ▸ List.mem_map_of_mem hv
  obtain ⟨u, hu, heq⟩ := List.mem_map.mp hfile
  exact heq ▸ ht u hu

/-- A trace that repeats another one has no other files. -/
theorem Repeats.filesIn {memo : List (Text × UInt64)} (h : t.Repeats memo t') (ht : t.FilesIn V) :
    t'.FilesIn V := by
  intro v hv
  obtain ⟨u, hu, heq⟩ := h.visits v hv
  exact heq ▸ ht u hu

/-- Two traces end alike, and something holds after both. -/
structure Matches (I : Progress → Prop) (t t' : Trace ε) : Prop where
  failure : t'.failure = t.failure
  left : I t.after
  right : I t'.after

variable {I : Progress → Prop}

/-- A failure that means something else still matches. -/
theorem Matches.mapFailure (h : t.Matches I t') (wrap : ε → ε') :
    (t.mapFailure wrap).Matches I (t'.mapFailure wrap) :=
  ⟨congrArg (Option.map wrap) h.failure, h.left, h.right⟩

/-- What matches in both parts matches; the second part may count on its visits being among given ones. -/
theorem Matches.andThen {next next' : Progress → Trace ε} (h : t.Matches I t')
    (hV : (t.andThen next).visits ⊆ V)
    (hnext : ∀ p q, I p → I q → (next p).visits ⊆ V → (next p).Matches I (next' q)) :
    (t.andThen next).Matches I (t'.andThen next') := by
  cases hfail : t.failure with
  | some e =>
    rw [andThen_failed hfail, andThen_failed (h.failure.trans hfail)]
    exact h
  | none =>
    have hsecond := hnext _ _ h.left h.right ((andThen_visits_subset hfail).mp hV).2
    rw [andThen_done hfail, andThen_done (h.failure.trans hfail)]
    exact ⟨hsecond.failure, hsecond.left, hsecond.right⟩

/-- Steps that match one by one match in turn. -/
theorem Matches.each {step step' : β → Progress → Trace ε}
    (hstep : ∀ b p q, I p → I q → (step b p).visits ⊆ V → (step b p).Matches I (step' b q))
    (items : List β) {p q : Progress} (hp : I p) (hq : I q) (hV : (each step items p).visits ⊆ V) :
    (each step items p).Matches I (each step' items q) := by
  induction items generalizing p q with
  | nil => exact ⟨rfl, hp, hq⟩
  | cons b rest ih =>
    have hVb := List.Subset.trans (visits_subset_andThen _ _) hV
    exact (hstep b p q hp hq hVb).andThen hV fun p q hp hq hV => ih hp hq hV

end Trace

variable {lib : Library} {opts : Options} {role : Text} {scope : Scope} {room : ℕ} {trail : List Text}
  {file location : Text} {p q : Progress} {V : List Visit}

/-- Every entry after following a task file was there before or is that of a visit. -/
theorem entries_traceFile {E : Text × UInt64 → Prop} (hE : ∀ v ∈ V, E (v.key opts))
    (hV : (traceFile lib opts role scope room trail file p).visits ⊆ V) (hp : ∀ key ∈ p.expanded, E key) :
    ∀ key ∈ (traceFile lib opts role scope room trail file p).after.expanded, E key := by
  induction room generalizing trail file p with
  | zero =>
    rw [traceFile]
    dsimp only [Trace.visiting]
    split_ifs
    · exact hp
    · exact hp
  | succ room ih =>
    rw [traceFile] at hV ⊢
    dsimp only [Trace.visiting] at hV ⊢
    split_ifs at hV ⊢ with hcycle hknown
    · exact hp
    · exact hp
    · obtain ⟨hv, hVbody⟩ := List.cons_subset.mp hV
      have hself := hE _ hv
      rw [TaskFile.visit] at hself
      unfold traceBody at hVbody ⊢
      split
      · exact hp
      · rename_i tasks htasks
        simp only [htasks] at hVbody
        refine Trace.andThen_preserves (P := fun q => ∀ key ∈ q.expanded, E key) hVbody ?_ fun q hq _ => ?_
        · refine Trace.each_preserves (P := fun q => ∀ key ∈ q.expanded, E key)
            (List.Subset.trans (Trace.visits_subset_andThen _ _) hVbody) hp fun target _ q hq hVq => ?_
          exact traceInclude_preserves (P := fun q => ∀ key ∈ q.expanded, E key) (fun _ _ _ h => h) hVq hq
            fun next hVnext => ih hVnext hq
        · unfold traceEnd
          split
          · exact hq
          · exact List.forall_mem_cons.mpr ⟨hself, hq⟩

/-- The entries of the visited files of a role under some variables. -/
def roleKeys (opts : Options) (V : List Visit) (role : Text) (scope : Scope) : Set (Text × UInt64) :=
  {key | ∃ v ∈ V, v.role = role ∧ v.scope = scope ∧ v.key opts = key}

/-- What comes of the main task file of a role when nothing was followed before. -/
def firstRun (lib : Library) (opts : Options) (role : Text) (scope : Scope) : Trace ExpandError :=
  traceFile lib opts role scope opts.maxDepth [] mainFile {}

/-- For each role and each set of variables the memo has no entry of a visited file, or it has those
of a first run. -/
def Replayed (lib : Library) (opts : Options) (V : List Visit) (memo : List (Text × UInt64)) : Prop :=
  ∀ role scope, Agree (roleKeys opts V role scope) [] memo ∨
    ((firstRun lib opts role scope).FilesIn V ∧
      Agree (roleKeys opts V role scope) (firstRun lib opts role scope).after.expanded memo)

/-- Visits from the main task file of a role on have entries of the role. -/
theorem within_roleKeys
    (h : (traceFile lib opts role scope opts.maxDepth [] mainFile p).FilesIn V) :
    (traceFile lib opts role scope opts.maxDepth [] mainFile p).Within opts (roleKeys opts V role scope) := by
  intro v hv
  have hpath := mainFile_visits_onPath hv
  obtain ⟨w, hw, heq⟩ := h v hv
  exact ⟨w, hw, heq ▸ hpath.role_eq, heq ▸ hpath.scope_eq, by rw [heq]⟩

/-- Entries of one role are made by no other run while the visits are coherent. -/
theorem Coherent.agree_traceFile (hV : Coherent opts V)
    (h : (traceFile lib opts role scope opts.maxDepth [] mainFile p).FilesIn V) {role' : Text}
    {scope' : Scope} (hother : ¬ (role' = role ∧ scope' = scope)) :
    Agree (roleKeys opts V role' scope') p.expanded
      (traceFile lib opts role scope opts.maxDepth [] mainFile p).after.expanded := by
  rintro key ⟨v, hv, rfl, rfl, rfl⟩
  refine ⟨mem_expanded_traceFile, fun hkey => ?_⟩
  have hentry := entries_traceFile (E := fun key => key ∈ p.expanded ∨
    ∃ u ∈ (traceFile lib opts role scope opts.maxDepth [] mainFile p).visits, u.key opts = key)
    (fun u hu => Or.inr ⟨u, hu, rfl⟩) (List.Subset.refl _) (fun _ hkey => Or.inl hkey) _ hkey
  rcases hentry with hkey | ⟨u, hu, hkey⟩
  · exact hkey
  · -- A new entry is one of the role that is followed, so it cannot be one of another role.
    obtain ⟨w, hw, hrole, hscope, hwkey⟩ := within_roleKeys h u hu
    have hsame : v.key opts = w.key opts := (hwkey.trans hkey).symm
    have hrole' : v.role = role := (hV.role v hv w hw (congrArg Prod.fst hsame)).trans hrole
    have hscope' : v.scope = scope := (hV.scope v hv w hw (congrArg Prod.snd hsame)).trans hscope
    exact absurd ⟨hrole', hscope'⟩ hother

namespace Replayed

/-- A memo without entries is replayed. -/
theorem of_nil {memo : List (Text × UInt64)} (h : memo = []) : Replayed lib opts V memo := by
  subst h
  exact fun _ _ => Or.inl fun _ _ => Iff.rfl

/-- A run from a replayed memo visits what a first run visits. -/
theorem filesIn_firstRun (h : Replayed lib opts V p.expanded)
    (hrun : (traceFile lib opts role scope opts.maxDepth [] mainFile p).FilesIn V) :
    (firstRun lib opts role scope).FilesIn V := by
  rcases h role scope with hnone | ⟨hfirst, -⟩
  · exact (traceFile_alike hnone.symm (within_roleKeys hrun)).filesIn hrun
  · exact hfirst

/-- A run from a replayed memo ends as a first run, visits no other files and leaves the same entries. -/
theorem traceFile_firstRun (h : Replayed lib opts V p.expanded)
    (hfirst : (firstRun lib opts role scope).FilesIn V) :
    let run := traceFile lib opts role scope opts.maxDepth [] mainFile p
    run.failure = (firstRun lib opts role scope).failure ∧ run.FilesIn V ∧
      Agree (roleKeys opts V role scope) (firstRun lib opts role scope).after.expanded run.after.expanded := by
  intro run
  rcases h role scope with hnone | ⟨-, hdone⟩
  · have halike := traceFile_alike hnone (within_roleKeys hfirst)
    exact ⟨halike.failure, halike.filesIn hfirst, halike.agree⟩
  · have hrepeats := traceFile_rerun (within_roleKeys hfirst) hdone
    refine ⟨hrepeats.failure, hrepeats.filesIn hfirst, ?_⟩
    rw [hrepeats.expanded]
    exact hdone

/-- Following the main task file of a role keeps a memo replayed. -/
theorem traceFile (hV : Coherent opts V) (h : Replayed lib opts V p.expanded)
    (hfirst : (firstRun lib opts role scope).FilesIn V) :
    Replayed lib opts V (traceFile lib opts role scope opts.maxDepth [] mainFile p).after.expanded := by
  obtain ⟨-, hrun, hagree⟩ := h.traceFile_firstRun hfirst
  intro role' scope'
  by_cases hsame : role' = role ∧ scope' = scope
  · obtain ⟨rfl, rfl⟩ := hsame
    exact Or.inr ⟨hfirst, hagree⟩
  · have hkeep := hV.agree_traceFile hrun hsame
    exact (h role' scope').imp (fun hnone => hnone.trans hkeep) fun hdone => ⟨hdone.1, hdone.2.trans hkeep⟩

end Replayed

/-- From replayed memos the main task file of a role ends alike. -/
theorem traceFile_matches (hV : Coherent opts V) (hp : Replayed lib opts V p.expanded)
    (hq : Replayed lib opts V q.expanded)
    (hvisits : (traceFile lib opts role scope opts.maxDepth [] mainFile p).visits ⊆ V) :
    (traceFile lib opts role scope opts.maxDepth [] mainFile p).Matches
      (fun r => Replayed lib opts V r.expanded)
      (traceFile lib opts role scope opts.maxDepth [] mainFile q) := by
  have hfirst := hp.filesIn_firstRun fun v hv => ⟨v, hvisits hv, rfl⟩
  obtain ⟨hpfail, -⟩ := hp.traceFile_firstRun hfirst
  obtain ⟨hqfail, -⟩ := hq.traceFile_firstRun hfirst
  exact ⟨hqfail.trans hpfail.symm, hp.traceFile hV hfirst, hq.traceFile hV hfirst⟩

/-- From replayed memos a role ends alike, whoever calls it. -/
theorem traceRole_matches {caller caller' : Node} (hV : Coherent opts V)
    (hp : Replayed lib opts V p.expanded) (hq : Replayed lib opts V q.expanded)
    (hvisits : (traceRole lib opts caller scope role p).visits ⊆ V) :
    (traceRole lib opts caller scope role p).Matches (fun r => Replayed lib opts V r.expanded)
      (traceRole lib opts caller' scope role q) := by
  unfold traceRole at hvisits ⊢
  split at hvisits
  · exact ⟨rfl, hp, hq⟩
  · exact ⟨rfl, hp, hq⟩
  · have hVmain := List.Subset.trans (Trace.visits_subset_andThen _ _) hvisits
    have hmain := traceFile_matches hV hp hq hVmain
    exact (hmain.mapFailure RoleError.expand).andThen hvisits fun _ _ hp hq _ => ⟨rfl, hp, hq⟩

/-- From replayed memos a playbook ends alike, with the same wording. -/
theorem tracePlaybook_matches (hV : Coherent opts V) (hp : Replayed lib opts V p.expanded)
    (hq : Replayed lib opts V q.expanded) (hvisits : (tracePlaybook lib opts location p).visits ⊆ V) :
    (tracePlaybook lib opts location p).Matches (fun r => Replayed lib opts V r.expanded)
      (tracePlaybook lib opts location q) := by
  unfold tracePlaybook at hvisits ⊢
  split at hvisits
  · exact ⟨rfl, hp, hq⟩
  · refine Trace.Matches.each (fun ref p q hp hq hvisits => ?_) _ hp hq hvisits
    unfold traceRef
    rw [Graph.stored_id, Graph.stored_id]
    exact (traceRole_matches hV hp hq hvisits).mapFailure _

end Analysis

/-- A history that starts without a memo leaves one that is replayed. -/
theorem Analyzer.replayed_history (a : Analyzer) (s : Site) {p : Analysis.Progress} (hp : p.expanded = [])
    {requests : List Request} {V : List Analysis.Visit} (hV : Analysis.Coherent a.options V)
    (hvisits : (a.history s requests p).visits ⊆ V) :
    Analysis.Replayed s.library a.options V (a.history s requests p).after.expanded := by
  exact history_preserves a s (P := fun q => Analysis.Replayed s.library a.options V q.expanded)
    hvisits (.of_nil hp) fun _ _ hq hVq => (Analysis.tracePlaybook_matches hV hq hq hVq).left

end RoleGraph
