import Mathlib.Data.List.Dedup
import Mathlib.Logic.Relation
import RoleGraph.Proofs.Completion

/-!
# What the memo promises

An entry of the memo is made when a task file was followed to its end, so everything that the file
includes has an entry that is older. A memo is settled when this holds of all its entries. Every
analysis keeps its memo settled, also one that fails, since a failure makes no entry.

In a settled memo the files below an entry are sound, whichever visits made their entries, as long
as a location belongs to one role and a fingerprint to one set of variables. Includes go from newer
to older entries, so they never come back.
-/

namespace RoleGraph

namespace Analysis

/-- A task file is sound and everything that it includes was visited and has an entry. -/
structure TaskFile.SoundOver (lib : Library) (opts : Options) (V : List Visit)
    (memo : List (Text × UInt64)) (f : TaskFile) (tasks : List Task) : Prop where
  loads : lib.tasks (f.location opts) = .ok tasks
  faultless : (Task.scan opts.includeKeys tasks).fault = none
  includes : ∀ target ∈ Task.includes opts.includeKeys tasks, ∃ file,
    f.scope.resolve target = .ok file ∧ TaskFile.key opts ⟨f.role, f.scope, file⟩ ∈ memo ∧
      ∃ w ∈ V, w.toTaskFile = ⟨f.role, f.scope, file⟩

/-- Every entry of a memo was made by a visit to a file that is sound over the older entries. -/
inductive Settled (lib : Library) (opts : Options) (V : List Visit) : List (Text × UInt64) → Prop where
  | nil : Settled lib opts V []
  | cons {v : Visit} {tasks : List Task} {memo : List (Text × UInt64)} (hv : v ∈ V)
      (hnew : v.key opts ∉ memo) (hsound : v.toTaskFile.SoundOver lib opts V memo tasks)
      (hmemo : Settled lib opts V memo) : Settled lib opts V (v.key opts :: memo)

variable {lib : Library} {opts : Options} {role : Text} {scope : Scope} {room : ℕ} {trail : List Text}
  {file : Text} {p : Progress} {V : List Visit}

/-- More entries take nothing from a sound file. -/
theorem TaskFile.SoundOver.mono {f : TaskFile} {tasks : List Task} {memo memo' : List (Text × UInt64)}
    (h : f.SoundOver lib opts V memo tasks) (hmemo : memo ⊆ memo') :
    f.SoundOver lib opts V memo' tasks := by
  refine ⟨h.loads, h.faultless, fun target htarget => ?_⟩
  obtain ⟨file, hresolve, hkey, hvisited⟩ := h.includes target htarget
  exact ⟨file, hresolve, hmemo hkey, hvisited⟩

/-- A settled memo has no entry twice. -/
theorem Settled.nodup {memo : List (Text × UInt64)} (h : Settled lib opts V memo) : memo.Nodup := by
  induction h with
  | nil => exact List.nodup_nil
  | cons _ hnew _ _ ih => exact List.nodup_cons.mpr ⟨hnew, ih⟩

/-- The memo loses no entry. -/
theorem mem_expanded_traceFile {key : Text × UInt64} (h : key ∈ p.expanded) :
    key ∈ (traceFile lib opts role scope room trail file p).after.expanded :=
  traceFile_preserves (P := fun q => key ∈ q.expanded) lib opts role scope room trail file
    (fun _ _ _ hq => hq) (fun _ _ _ hq => List.mem_cons_of_mem _ hq) h

/-- A task file that succeeds has an entry. -/
theorem key_mem_traceFile (h : (traceFile lib opts role scope room trail file p).failure = none) :
    TaskFile.key opts ⟨role, scope, file⟩ ∈
      (traceFile lib opts role scope room trail file p).after.expanded := by
  obtain ⟨left, -, -, ⟨hknown, heq⟩ | ⟨-, hbody, heq⟩⟩ := traceFile_done h
  · rw [heq]
    exact hknown
  · obtain ⟨tasks, -, -, -, hafter⟩ := traceBody_done hbody
    rw [heq, hafter]
    exact List.mem_cons_self

/-- Following a task file makes no entry for a location on its trail. -/
theorem notMem_expanded_traceFile {key : Text × UInt64} (htrail : key.1 ∈ trail) (h : key ∉ p.expanded) :
    key ∉ (traceFile lib opts role scope room trail file p).after.expanded := by
  refine traceFile_preserves (P := fun q => key ∉ q.expanded) lib opts role scope room trail file
    (fun _ _ _ hq => hq) ?_ h
  intro q other hother hq
  rintro (_ | ⟨_, hmem⟩)
  · exact hother htrail
  · exact hq hmem

section Body

variable {f : TaskFile} {left : ℕ} {source : Node} {targets : List Text}

/-- Includes make no entry for a file on their trail. -/
theorem notMem_expanded_includes {location : Text} {key : Text × UInt64} (htrail : key.1 ∈ trail)
    (h : key ∉ p.expanded) :
    key ∉ (Trace.each (traceInclude role location scope source (traceFile lib opts role scope left trail))
      targets p).after.expanded := by
  refine Trace.each_preserves (P := fun q => key ∉ q.expanded) (List.Subset.refl _) h ?_
  intro target _ q hq _
  refine traceInclude_preserves (P := fun q => key ∉ q.expanded) (fun _ _ _ h => h)
    (List.Subset.refl _) hq ?_
  intro next _
  exact notMem_expanded_traceFile htrail hq

/-- Includes that succeed resolve to files that were visited and have entries. -/
theorem includes_entries {location : Text}
    (h : (Trace.each (traceInclude role location scope source (traceFile lib opts role scope left trail))
      targets p).failure = none)
    (hV : (Trace.each (traceInclude role location scope source (traceFile lib opts role scope left trail))
      targets p).visits ⊆ V) :
    ∀ target ∈ targets, ∃ file, scope.resolve target = .ok file ∧
      TaskFile.key opts ⟨role, scope, file⟩ ∈ (Trace.each (traceInclude role location scope source
        (traceFile lib opts role scope left trail)) targets p).after.expanded ∧
      ∃ w ∈ V, w.toTaskFile = ⟨role, scope, file⟩ := by
  refine Trace.each_establishes (K := fun target q => ∃ file, scope.resolve target = .ok file ∧
    TaskFile.key opts ⟨role, scope, file⟩ ∈ q.expanded ∧ ∃ w ∈ V, w.toTaskFile = ⟨role, scope, file⟩)
    h hV ?_ ?_
  · intro target _ q hdone hVq
    obtain ⟨next, hresolve, hchild, heq⟩ := traceInclude_done hdone
    rw [heq] at hVq ⊢
    exact ⟨next, hresolve, key_mem_traceFile hchild, _, hVq visit_mem_traceFile, rfl⟩
  · rintro target other - q ⟨next, hresolve, hkey, hvisited⟩
    refine ⟨next, hresolve, ?_, hvisited⟩
    exact traceInclude_preserves (P := fun q => TaskFile.key opts ⟨role, scope, next⟩ ∈ q.expanded)
      (fun _ _ _ h => h) (List.Subset.refl _) hkey fun _ _ => mem_expanded_traceFile hkey

/-- The body of a file off its trail keeps the memo settled when the included files do. -/
theorem settled_traceBody {v : Visit} (hv : v ∈ V) (hnew : v.key opts ∉ p.expanded)
    (htrail : v.location opts ∈ trail)
    (hchild : ∀ next q, (traceFile lib opts v.role v.scope left trail next q).visits ⊆ V →
      Settled lib opts V q.expanded →
        Settled lib opts V (traceFile lib opts v.role v.scope left trail next q).after.expanded)
    (hV : (traceBody lib opts v.toTaskFile (traceFile lib opts v.role v.scope left trail) p).visits ⊆ V)
    (h : Settled lib opts V p.expanded) :
    Settled lib opts V (traceBody lib opts v.toTaskFile
      (traceFile lib opts v.role v.scope left trail) p).after.expanded := by
  cases htasks : lib.tasks (v.location opts) with
  | error cause =>
    simp only [traceBody, htasks]
    exact h
  | ok tasks =>
    rw [traceBody_loaded htasks] at hV ⊢
    have hVeach := List.Subset.trans (Trace.visits_subset_andThen _ _) hV
    generalize hincludes : Trace.each _ _ p = includes at hV hVeach ⊢
    have hsettled : Settled lib opts V includes.after.expanded := by
      rw [← hincludes] at hVeach ⊢
      refine Trace.each_preserves (P := fun q => Settled lib opts V q.expanded) hVeach h ?_
      intro target _ q hq hVq
      exact traceInclude_preserves (P := fun q => Settled lib opts V q.expanded)
        (fun _ _ _ h => h) hVq hq fun next hVnext => hchild next q hVnext hq
    cases hfail : includes.failure with
    | some e =>
      rw [Trace.andThen_failed hfail]
      exact hsettled
    | none =>
      rw [Trace.andThen_done hfail]
      cases hfault : (Task.scan opts.includeKeys tasks).fault with
      | some fault => exact hsettled
      | none =>
        -- The entry is new, because the body made none for a location on its trail.
        have hnew' : v.key opts ∉ includes.after.expanded := by
          rw [← hincludes]
          exact notMem_expanded_includes htrail hnew
        have hsound : v.toTaskFile.SoundOver lib opts V includes.after.expanded tasks := by
          refine ⟨htasks, hfault, fun target htarget => ?_⟩
          rw [← hincludes] at hfail hVeach ⊢
          exact includes_entries hfail hVeach target ((Task.scan_targets_perm hfault).mem_iff.mpr htarget)
        exact .cons hv hnew' hsound hsettled

end Body

/-- Following a task file keeps the memo settled, whether it succeeds or not. -/
theorem settled_traceFile (hV : (traceFile lib opts role scope room trail file p).visits ⊆ V)
    (h : Settled lib opts V p.expanded) :
    Settled lib opts V (traceFile lib opts role scope room trail file p).after.expanded := by
  induction room generalizing trail file p with
  | zero =>
    rw [traceFile]
    dsimp only [Trace.visiting]
    split_ifs
    · exact h
    · exact h
  | succ room ih =>
    rw [traceFile] at hV ⊢
    dsimp only [Trace.visiting] at hV ⊢
    split_ifs at hV ⊢ with hcycle hknown
    · exact h
    · exact h
    · obtain ⟨hv, hVbody⟩ := List.cons_subset.mp hV
      have hbody := @settled_traceBody lib opts (trail ++ [TaskFile.location opts ⟨role, scope, file⟩]) p V
        room (TaskFile.visit ⟨role, scope, file⟩ opts trail p) hv hknown (by simp [TaskFile.visit])
      exact hbody (fun next q hVq hq => ih hVq hq) hVbody h

/-- Following a role keeps the memo settled. -/
theorem settled_traceRole {caller : Node} (hV : (traceRole lib opts caller scope role p).visits ⊆ V)
    (h : Settled lib opts V p.expanded) :
    Settled lib opts V (traceRole lib opts caller scope role p).after.expanded := by
  unfold traceRole at hV ⊢
  split
  · exact h
  · exact h
  · rename_i hdir
    simp only [hdir] at hV
    have hVmain := List.Subset.trans (Trace.visits_subset_andThen _ _) hV
    exact Trace.andThen_preserves (P := fun q => Settled lib opts V q.expanded) hV
      (settled_traceFile hVmain h) fun _ hq _ => hq

/-- Following a playbook keeps the memo settled, whether it succeeds or not. -/
theorem settled_tracePlaybook {location : Text} (hV : (tracePlaybook lib opts location p).visits ⊆ V)
    (h : Settled lib opts V p.expanded) :
    Settled lib opts V (tracePlaybook lib opts location p).after.expanded := by
  unfold tracePlaybook at hV ⊢
  split
  · exact h
  · rename_i plays hplays
    simp only [hplays] at hV
    refine Trace.each_preserves (P := fun q => Settled lib opts V q.expanded) hV h ?_
    intro ref _ q hq hVq
    exact settled_traceRole hVq hq

/-- A playbook that succeeds leaves entries for the main task files of the roles that it runs. -/
theorem mainKey_mem_tracePlaybook {location : Text} (h : (tracePlaybook lib opts location p).failure = none)
    (hruns : RunsRole lib opts location role scope) :
    TaskFile.key opts ⟨role, scope, mainFile⟩ ∈ (tracePlaybook lib opts location p).after.expanded := by
  obtain ⟨plays, hplays, heach, heq⟩ := tracePlaybook_done h
  obtain ⟨ref, href, rfl, rfl⟩ := hruns.exists_ref hplays
  rw [heq]
  refine Trace.each_establishes (K := fun (ref : RoleRef) q =>
    TaskFile.key opts ⟨ref.role, ref.scope, mainFile⟩ ∈ q.expanded) heach (List.Subset.refl _) ?_ ?_ ref href
  · intro ref _ q hdone _
    obtain ⟨-, hmain, hrole⟩ := traceRole_done (traceRef_done hdone)
    simp only [traceRef, Trace.mapFailure, hrole]
    exact key_mem_traceFile hmain
  · intro ref other _ q hkey
    exact traceRole_preserves (P := fun q => TaskFile.key opts ⟨ref.role, ref.scope, mainFile⟩ ∈ q.expanded)
      lib opts _ _ _ (fun _ _ _ hq => hq) (fun _ _ hq => List.mem_cons_of_mem _ hq) hkey

/-- Among the visits, a location belongs to one role and a fingerprint to one set of variables. -/
structure Coherent (opts : Options) (V : List Visit) : Prop where
  role : ∀ v ∈ V, ∀ w ∈ V, v.location opts = w.location opts → v.role = w.role
  scope : ∀ v ∈ V, ∀ w ∈ V, v.scope.fingerprint = w.scope.fingerprint → v.scope = w.scope

/-- Whether visits are coherent is found pair by pair; only different variables need fingerprints. -/
instance (opts : Options) (V : List Visit) : Decidable (Coherent opts V) :=
  decidable_of_iff ((∀ v ∈ V, ∀ w ∈ V, v.location opts = w.location opts → v.role = w.role) ∧
      ∀ x ∈ (V.map (·.scope)).dedup, ∀ y ∈ (V.map (·.scope)).dedup,
        x = y ∨ x.fingerprint ≠ y.fingerprint) <| by
    simp only [List.mem_dedup, List.mem_map, forall_exists_index, and_imp, forall_apply_eq_imp_iff₂]
    constructor
    · rintro ⟨hrole, hscope⟩
      exact ⟨hrole, fun v hv w hw => (hscope v hv w hw).resolve_right ∘ not_not_intro⟩
    · intro h
      exact ⟨h.role, fun v hv w hw => or_not_of_imp (h.scope v hv w hw)⟩

/-- A task file was visited and has an entry. -/
def TaskFile.Covered (opts : Options) (V : List Visit) (memo : List (Text × UInt64)) (f : TaskFile) : Prop :=
  (∃ v ∈ V, v.toTaskFile = f) ∧ f.key opts ∈ memo

/-- Coherent visits with one entry are to one file under one role and one set of variables, so one of
them is as sound as the other. -/
theorem Coherent.soundOver {v w : Visit} {memo : List (Text × UInt64)} {tasks : List Task}
    (hV : Coherent opts V) (hv : v ∈ V) (hw : w ∈ V) (hkey : v.key opts = w.key opts)
    (h : v.toTaskFile.SoundOver lib opts V memo tasks) : w.toTaskFile.SoundOver lib opts V memo tasks := by
  have hlocation : v.location opts = w.location opts := congrArg Prod.fst hkey
  have hrole : v.role = w.role := hV.role v hv w hw hlocation
  have hscope : v.scope = w.scope := hV.scope v hv w hw (congrArg Prod.snd hkey)
  refine ⟨hlocation ▸ h.loads, h.faultless, ?_⟩
  rw [← hrole, ← hscope]
  exact h.includes

/-- A file that is covered by a settled memo is sound over it. -/
theorem Settled.soundOver {memo : List (Text × UInt64)} (h : Settled lib opts V memo)
    (hV : Coherent opts V) {f : TaskFile} (hf : f.Covered opts V memo) :
    ∃ tasks, f.SoundOver lib opts V memo tasks := by
  obtain ⟨⟨w, hw, rfl⟩, hkey⟩ := hf
  induction h with
  | nil => contradiction
  | @cons v tasks memo hv _ hsound _ ih =>
    have hmono : memo ⊆ v.key opts :: memo := List.subset_cons_self _ _
    rcases List.mem_cons.mp hkey with hkey | hkey
    · exact ⟨tasks, (hV.soundOver hv hw hkey.symm hsound).mono hmono⟩
    · obtain ⟨tasks', hsound'⟩ := ih hkey
      exact ⟨tasks', hsound'.mono hmono⟩

/-- What a sound file includes is covered. -/
theorem TaskFile.SoundOver.covered {f : TaskFile} {tasks : List Task} {memo : List (Text × UInt64)}
    (h : f.SoundOver lib opts V memo tasks) {next : Text}
    (hnext : Includes lib opts f.scope (f.location opts) next) :
    TaskFile.Covered opts V memo ⟨f.role, f.scope, next⟩ := by
  obtain ⟨tasks', htasks', target, htarget, hresolve⟩ := hnext
  obtain rfl : tasks = tasks' := Except.ok.inj (h.loads.symm.trans htasks')
  obtain ⟨next', hresolve', hkey, hvisited⟩ := h.includes target htarget
  obtain rfl : next = next' := Except.ok.inj (hresolve.symm.trans hresolve')
  exact ⟨hvisited, hkey⟩

/-- Everything that includes lead to from a covered file is covered. -/
theorem Settled.covered_of_reaches {memo : List (Text × UInt64)} (h : Settled lib opts V memo)
    (hV : Coherent opts V) (hf : TaskFile.Covered opts V memo ⟨role, scope, file⟩) {l : Text}
    (hl : Relation.ReflTransGen (Leads lib opts role scope) (TaskFile.location opts ⟨role, scope, file⟩) l) :
    ∃ next, TaskFile.Covered opts V memo ⟨role, scope, next⟩ ∧
      l = TaskFile.location opts ⟨role, scope, next⟩ := by
  induction hl with
  | refl => exact ⟨file, hf, rfl⟩
  | tail _ hstep ih =>
    obtain ⟨middle, hmiddle, rfl⟩ := ih
    obtain ⟨next, hnext, rfl⟩ := hstep
    obtain ⟨tasks, hsound⟩ := h.soundOver hV hmiddle
    exact ⟨next, hsound.covered hnext, rfl⟩

/-- No chain of includes returns to a covered file. -/
theorem Settled.acyclic {memo : List (Text × UInt64)} (h : Settled lib opts V memo)
    (hV : Coherent opts V) {f : TaskFile} (hf : f.Covered opts V memo) :
    ¬ Relation.TransGen (Leads lib opts f.role f.scope) (f.location opts) (f.location opts) := by
  obtain ⟨⟨w, hw, rfl⟩, hkey⟩ := hf
  induction h with
  | nil => contradiction
  | @cons v tasks memo hv hnew hsound hmemo ih =>
    rcases List.mem_cons.mp hkey with hkey | hkey
    · -- The chain leaves the newest entry for older ones, and they never lead back to it.
      intro hcycle
      obtain ⟨l, ⟨next, hnext, rfl⟩, hback⟩ := Relation.TransGen.head'_iff.mp hcycle
      have hcovered := (hV.soundOver hv hw hkey.symm hsound).covered hnext
      obtain ⟨last, ⟨-, hlast⟩, hlocation⟩ := hmemo.covered_of_reaches hV hcovered hback
      apply hnew
      rw [← hkey]
      have hsame : w.key opts = TaskFile.key opts ⟨w.role, w.scope, last⟩ := by
        rw [TaskFile.key, hlocation, TaskFile.key]
      rwa [hsame]
    · exact ih hkey

end Analysis

end RoleGraph
