import Mathlib.Data.Set.Defs
import RoleGraph.Proofs.Memo

/-!
# Following a task file again

Two facts say how a run depends on the memo. Runs whose memos agree about the files that one of them
visits end alike and visit the same files. And a run that starts from what a first run left ends as
the first one did, even when that was a failure: the files that were followed to their end are in the
memo now, so the second run passes over them, and the files on the trail of the failure are not, so
it arrives at the same failure. It makes no entry of its own.
-/

namespace RoleGraph

namespace Analysis

/-- Two memos agree about some entries. -/
def Agree (K : Set (Text × UInt64)) (memo memo' : List (Text × UInt64)) : Prop :=
  ∀ key ∈ K, key ∈ memo ↔ key ∈ memo'

/-- One more entry in both keeps memos in agreement. -/
theorem Agree.cons {K : Set (Text × UInt64)} {memo memo' : List (Text × UInt64)} (h : Agree K memo memo')
    (entry : Text × UInt64) : Agree K (entry :: memo) (entry :: memo') := by
  intro key hkey
  rw [List.mem_cons, List.mem_cons, h key hkey]

namespace Trace

variable {ε β : Type} {opts : Options} {K : Set (Text × UInt64)} {memo : List (Text × UInt64)}

/-- The files that a trace visits have some entries. -/
def Within (opts : Options) (K : Set (Text × UInt64)) (t : Trace ε) : Prop :=
  ∀ v ∈ t.visits, v.key opts ∈ K

/-- Two traces end alike and visit the same files, and the memos agree after them. -/
structure Alike (K : Set (Text × UInt64)) (t t' : Trace ε) : Prop where
  failure : t'.failure = t.failure
  visits : t'.visits.map (·.toTaskFile) = t.visits.map (·.toTaskFile)
  agree : Agree K t.after.expanded t'.after.expanded

/-- A second trace ends as the first one did, visits no other files and leaves the memo as it was. -/
structure Repeats (memo : List (Text × UInt64)) (t t' : Trace ε) : Prop where
  failure : t'.failure = t.failure
  expanded : t'.after.expanded = memo
  visits : ∀ v ∈ t'.visits, ∃ w ∈ t.visits, w.toTaskFile = v.toTaskFile

/-- The first part visits no other files than both parts. -/
theorem Within.left {t : Trace ε} {next : Progress → Trace ε} (h : (t.andThen next).Within opts K) :
    t.Within opts K := fun v hv => h v (visits_subset_andThen _ _ hv)

/-- The second part visits no other files than both parts. -/
theorem Within.right {t : Trace ε} {next : Progress → Trace ε} (h : (t.andThen next).Within opts K)
    (ht : t.failure = none) : (next t.after).Within opts K := by
  rw [andThen_done ht] at h
  exact fun v hv => h v (List.mem_append_right _ hv)

/-- What is alike in both parts is alike. -/
theorem Alike.andThen {t t' : Trace ε} {next next' : Progress → Trace ε} (h : t.Alike K t')
    (hK : (t.andThen next).Within opts K)
    (hnext : ∀ p q, Agree K p.expanded q.expanded → (next p).Within opts K → (next p).Alike K (next' q)) :
    (t.andThen next).Alike K (t'.andThen next') := by
  cases hfail : t.failure with
  | some e =>
    rw [andThen_failed hfail, andThen_failed (h.failure.trans hfail)]
    exact h
  | none =>
    have hsecond := hnext _ _ h.agree (hK.right hfail)
    rw [andThen_done hfail, andThen_done (h.failure.trans hfail)]
    refine ⟨hsecond.failure, ?_, hsecond.agree⟩
    rw [List.map_append, List.map_append, h.visits, hsecond.visits]

/-- Steps that are alike one by one are alike in turn. -/
theorem Alike.each {step step' : β → Progress → Trace ε}
    (hstep : ∀ b p q, Agree K p.expanded q.expanded → (step b p).Within opts K →
      (step b p).Alike K (step' b q))
    (items : List β) {p q : Progress} (h : Agree K p.expanded q.expanded)
    (hK : (each step items p).Within opts K) : (each step items p).Alike K (each step' items q) := by
  induction items generalizing p q with
  | nil => exact ⟨rfl, rfl, h⟩
  | cons b rest ih => exact (hstep b p q h hK.left).andThen hK fun p q h hK => ih h hK

/-- Visits to one file leave traces alike. -/
theorem Alike.visiting {t t' : Trace ExpandError} (h : t.Alike K t') {v v' : Visit}
    (hv : v'.toTaskFile = v.toTaskFile) : (t.visiting v).Alike K (t'.visiting v') := by
  refine ⟨h.failure, ?_, h.agree⟩
  simp only [Trace.visiting, List.map_cons, hv, h.visits]

/-- A trace without visits repeats one that ends alike. -/
theorem Repeats.still {t t' : Trace ε} (hfailure : t'.failure = t.failure)
    (hexpanded : t'.after.expanded = memo) (hvisits : t'.visits = []) : t.Repeats memo t' := by
  refine ⟨hfailure, hexpanded, fun v hv => ?_⟩
  rw [hvisits] at hv
  contradiction

/-- A failure that is repeated is all there is. -/
theorem Repeats.andThen_failed {t t' : Trace ε} {e : ε} (h : t.Repeats memo t') (ht : t.failure = some e)
    (next next' : Progress → Trace ε) : (t.andThen next).Repeats memo (t'.andThen next') := by
  rw [Trace.andThen_failed ht, Trace.andThen_failed (h.failure.trans ht)]
  exact h

/-- What is repeated in both parts is repeated. -/
theorem Repeats.andThen {t t' : Trace ε} {next next' : Progress → Trace ε} (h : t.Repeats memo t')
    (ht : t.failure = none) (hnext : (next t.after).Repeats memo (next' t'.after)) :
    (t.andThen next).Repeats memo (t'.andThen next') := by
  rw [andThen_done ht, andThen_done (h.failure.trans ht)]
  refine ⟨hnext.failure, hnext.expanded, fun v hv => ?_⟩
  rcases List.mem_append.mp hv with hv | hv
  · obtain ⟨w, hw, heq⟩ := h.visits v hv
    exact ⟨w, List.mem_append_left _ hw, heq⟩
  · obtain ⟨w, hw, heq⟩ := hnext.visits v hv
    exact ⟨w, List.mem_append_right _ hw, heq⟩

/-- A visit to the same file is repeated. -/
theorem Repeats.visiting {t t' : Trace ExpandError} (h : t.Repeats memo t') {v v' : Visit}
    (hv : v.toTaskFile = v'.toTaskFile) : (t.visiting v).Repeats memo (t'.visiting v') := by
  refine ⟨h.failure, h.expanded, fun w hw => ?_⟩
  rcases List.mem_cons.mp hw with rfl | hw
  · exact ⟨v, List.mem_cons_self, hv⟩
  · obtain ⟨u, hu, heq⟩ := h.visits w hw
    exact ⟨u, List.mem_cons_of_mem _ hu, heq⟩

end Trace

variable {lib : Library} {opts : Options} {role : Text} {scope : Scope} {room left : ℕ} {trail : List Text}
  {file location target : Text} {p q : Progress} {K : Set (Text × UInt64)}

/-- The files that are visited from a task file on include the file itself. -/
theorem Trace.Within.self (h : (traceFile lib opts role scope room trail file p).Within opts K) :
    TaskFile.key opts ⟨role, scope, file⟩ ∈ K := by
  have hvisit : TaskFile.visit ⟨role, scope, file⟩ opts trail p ∈
    (traceFile lib opts role scope room trail file p).visits := visit_mem_traceFile
  have hkey := h _ hvisit
  rwa [TaskFile.visit] at hkey

section Children

variable {child : Text → Progress → Trace ExpandError}

/-- Includes of files that are alike are alike. -/
theorem traceInclude_alike {source source' : Node}
    (hchild : ∀ next p q, Agree K p.expanded q.expanded → (child next p).Within opts K →
      (child next p).Alike K (child next q))
    (h : Agree K p.expanded q.expanded)
    (hK : (traceInclude role location scope source child target p).Within opts K) :
    (traceInclude role location scope source child target p).Alike K
      (traceInclude role location scope source' child target q) := by
  cases hresolve : scope.resolve target with
  | error cause =>
    simp only [traceInclude, hresolve]
    exact ⟨rfl, rfl, h⟩
  | ok next =>
    rw [traceInclude_resolved hresolve] at hK ⊢
    rw [traceInclude_resolved hresolve]
    exact (hchild next p q h hK.left).andThen hK fun _ _ h _ => ⟨rfl, rfl, h⟩

/-- Bodies with includes that are alike are alike. -/
theorem traceBody_alike {f : TaskFile}
    (hchild : ∀ next p q, Agree K p.expanded q.expanded → (child next p).Within opts K →
      (child next p).Alike K (child next q))
    (h : Agree K p.expanded q.expanded)
    (hK : (traceBody lib opts f child p).Within opts K) :
    (traceBody lib opts f child p).Alike K (traceBody lib opts f child q) := by
  cases htasks : lib.tasks (f.location opts) with
  | error cause =>
    simp only [traceBody, htasks]
    exact ⟨rfl, rfl, h⟩
  | ok tasks =>
    rw [traceBody_loaded htasks] at hK ⊢
    rw [traceBody_loaded htasks]
    refine Trace.Alike.andThen ?_ hK fun p q h _ => ?_
    · refine Trace.Alike.each ?_ _ h hK.left
      exact fun target p q h hK => traceInclude_alike hchild h hK
    · unfold traceEnd
      split
      · exact ⟨rfl, rfl, h⟩
      · exact ⟨rfl, rfl, h.cons _⟩

/-- An include is repeated when the file it resolves to is. -/
theorem traceInclude_repeats {source source' : Node}
    (hchild : ∀ next, scope.resolve target = .ok next →
      (child next p).Repeats q.expanded (child next q)) :
    (traceInclude role location scope source child target p).Repeats q.expanded
      (traceInclude role location scope source' child target q) := by
  cases hresolve : scope.resolve target with
  | error cause =>
    simp only [traceInclude, hresolve]
    exact .still rfl rfl rfl
  | ok next =>
    have hnext := hchild next hresolve
    rw [traceInclude_resolved hresolve, traceInclude_resolved hresolve]
    cases hfail : (child next p).failure with
    | some e => exact hnext.andThen_failed hfail _ _
    | none => exact hnext.andThen hfail (.still rfl hnext.expanded rfl)

/-- The call of an include makes no entry. -/
theorem traceInclude_expanded {source : Node} {next : Text}
    (hresolve : scope.resolve target = .ok next) :
    (traceInclude role location scope source child target p).after.expanded =
      (child next p).after.expanded := by
  rw [traceInclude_resolved hresolve]
  cases hfail : (child next p).failure with
  | some e => rw [Trace.andThen_failed hfail]
  | none => rw [Trace.andThen_done hfail]; rfl

end Children

/-- From memos that agree about the visited files, a task file ends alike. -/
theorem traceFile_alike (h : Agree K p.expanded q.expanded)
    (hK : (traceFile lib opts role scope room trail file p).Within opts K) :
    (traceFile lib opts role scope room trail file p).Alike K
      (traceFile lib opts role scope room trail file q) := by
  induction room generalizing trail file p q with
  | zero =>
    rw [traceFile, traceFile]
    refine Trace.Alike.visiting ?_ rfl
    split_ifs
    · exact ⟨rfl, rfl, h⟩
    · exact ⟨rfl, rfl, h⟩
  | succ room ih =>
    have hself : TaskFile.key opts ⟨role, scope, file⟩ ∈ K := hK.self
    rw [traceFile] at hK ⊢
    rw [traceFile]
    refine Trace.Alike.visiting ?_ rfl
    by_cases hcycle : TaskFile.location opts ⟨role, scope, file⟩ ∈ trail
    · rw [if_pos hcycle, if_pos hcycle]
      exact ⟨rfl, rfl, h⟩
    · rw [if_neg hcycle] at hK
      rw [if_neg hcycle, if_neg hcycle]
      by_cases hknown : TaskFile.key opts ⟨role, scope, file⟩ ∈ p.expanded
      · rw [if_pos hknown, if_pos ((h _ hself).mp hknown)]
        exact ⟨rfl, rfl, h⟩
      · rw [if_neg hknown] at hK
        rw [if_neg hknown, if_neg (mt (h _ hself).mpr hknown)]
        refine traceBody_alike ?_ h fun v hv => hK v (List.mem_cons_of_mem _ hv)
        exact fun next p q h hK => ih h hK

/-- A file with an entry is passed over, off its trail and within the limit. -/
theorem traceFile_known (hroom : 0 < room) (htrail : TaskFile.location opts ⟨role, scope, file⟩ ∉ trail)
    (hkey : TaskFile.key opts ⟨role, scope, file⟩ ∈ p.expanded) :
    traceFile lib opts role scope room trail file p =
      { after := p, visits := [TaskFile.visit ⟨role, scope, file⟩ opts trail p] } := by
  obtain ⟨left, rfl⟩ := Nat.exists_eq_add_one.mpr hroom
  rw [traceFile]
  dsimp only [Trace.visiting]
  rw [if_neg htrail, if_pos hkey]

/-- A file that succeeded is passed over once it has an entry. -/
theorem traceFile_again (h : (traceFile lib opts role scope room trail file p).failure = none)
    (hkey : TaskFile.key opts ⟨role, scope, file⟩ ∈ q.expanded) :
    (traceFile lib opts role scope room trail file p).Repeats q.expanded
      (traceFile lib opts role scope room trail file q) := by
  obtain ⟨left, rfl, htrail, -⟩ := traceFile_done h
  have hvisit : TaskFile.visit ⟨role, scope, file⟩ opts trail p ∈
    (traceFile lib opts role scope (left + 1) trail file p).visits := visit_mem_traceFile
  rw [traceFile_known (Nat.succ_pos left) htrail hkey]
  refine ⟨h.symm, rfl, fun v hv => ?_⟩
  obtain rfl := List.mem_singleton.mp hv
  exact ⟨_, hvisit, rfl⟩

/-- Includes lose no entry. -/
theorem mem_expanded_includes {source : Node} {targets : List Text} {key : Text × UInt64}
    (h : key ∈ p.expanded) :
    key ∈ (Trace.each (traceInclude role location scope source (traceFile lib opts role scope left trail))
      targets p).after.expanded := by
  refine Trace.each_preserves (P := fun q => key ∈ q.expanded) (List.Subset.refl _) h ?_
  intro target _ q hq _
  exact traceInclude_preserves (P := fun q => key ∈ q.expanded) (fun _ _ _ h => h)
    (List.Subset.refl _) hq fun _ _ => mem_expanded_traceFile hq

/-- Includes are repeated from what they left when the files are. -/
theorem includes_rerun {source source' : Node}
    (hchild : ∀ next p q, (traceFile lib opts role scope left trail next p).Within opts K →
      Agree K (traceFile lib opts role scope left trail next p).after.expanded q.expanded →
        (traceFile lib opts role scope left trail next p).Repeats q.expanded
          (traceFile lib opts role scope left trail next q))
    (targets : List Text)
    (hK : (Trace.each (traceInclude role location scope source (traceFile lib opts role scope left trail))
      targets p).Within opts K)
    (h : Agree K (Trace.each (traceInclude role location scope source
      (traceFile lib opts role scope left trail)) targets p).after.expanded q.expanded) :
    (Trace.each (traceInclude role location scope source (traceFile lib opts role scope left trail))
      targets p).Repeats q.expanded
      (Trace.each (traceInclude role location scope source' (traceFile lib opts role scope left trail))
        targets q) := by
  induction targets generalizing p q with
  | nil => exact .still rfl rfl rfl
  | cons target rest ih =>
    rw [Trace.each] at hK h ⊢
    rw [Trace.each]
    cases hfail : (traceInclude role location scope source
      (traceFile lib opts role scope left trail) target p).failure with
    | some e =>
      -- Nothing came after the failure, so the second run starts from what the include left.
      rw [Trace.andThen_failed hfail] at h
      refine Trace.Repeats.andThen_failed (traceInclude_repeats fun next hresolve => ?_) hfail _ _
      have hK := hK.left
      rw [traceInclude_resolved hresolve] at hK
      rw [traceInclude_expanded hresolve] at h
      exact hchild next p q hK.left h
    | none =>
      rw [Trace.andThen_done hfail] at h
      -- The file of the include has an entry that the later includes keep.
      have hfirst : (traceInclude role location scope source
          (traceFile lib opts role scope left trail) target p).Repeats q.expanded
          (traceInclude role location scope source' (traceFile lib opts role scope left trail) target q) := by
        refine traceInclude_repeats fun next hresolve => ?_
        have hK := hK.left
        rw [traceInclude_resolved hresolve] at hfail hK
        have hdone := (Trace.andThen_failure_eq_none.mp hfail).1
        refine traceFile_again hdone ((h _ hK.left.self).mp (mem_expanded_includes ?_))
        rw [traceInclude_expanded hresolve]
        exact key_mem_traceFile hdone
      refine hfirst.andThen hfail ?_
      rw [← hfirst.expanded] at h ⊢
      exact ih (hK.right hfail) h

/-- A file that fails, in its includes or at its end, is left as the includes left it. -/
theorem traceEnd_failed {f : TaskFile} {fault : Option Task.ScanFault} {t : Trace ExpandError}
    {e : ExpandError} (h : (t.andThen (traceEnd f opts fault)).failure = some e) :
    (t.andThen (traceEnd f opts fault)).after = t.after := by
  cases hfail : t.failure with
  | some cause => rw [Trace.andThen_failed hfail]
  | none =>
    rw [Trace.andThen_done hfail] at h ⊢
    cases fault with
    | some fault => rfl
    | none => simp [traceEnd] at h

/-- A file that fails, in its includes or at its end, is repeated when its includes are. -/
theorem Trace.Repeats.traceEnd {f : TaskFile} {fault : Option Task.ScanFault} {t t' : Trace ExpandError}
    {memo : List (Text × UInt64)} {e : ExpandError} (h : t.Repeats memo t')
    (hfail : (t.andThen (traceEnd f opts fault)).failure = some e) :
    (t.andThen (traceEnd f opts fault)).Repeats memo (t'.andThen (traceEnd f opts fault)) := by
  cases hfirst : t.failure with
  | some cause => exact h.andThen_failed hfirst _ _
  | none =>
    rw [Trace.andThen_done hfirst] at hfail
    cases fault with
    | some fault => exact h.andThen hfirst (.still rfl h.expanded rfl)
    | none => simp [Analysis.traceEnd] at hfail

/-- A body that fails makes no entry for its file. -/
theorem notMem_expanded_traceBody {f : TaskFile} {e : ExpandError} (htrail : f.location opts ∈ trail)
    (hnew : f.key opts ∉ p.expanded)
    (hfail : (traceBody lib opts f (traceFile lib opts f.role f.scope left trail) p).failure = some e) :
    f.key opts ∉ (traceBody lib opts f (traceFile lib opts f.role f.scope left trail) p).after.expanded := by
  cases htasks : lib.tasks (f.location opts) with
  | error cause =>
    simp only [traceBody, htasks]
    exact hnew
  | ok tasks =>
    rw [traceBody_loaded htasks] at hfail ⊢
    rw [traceEnd_failed hfail]
    exact notMem_expanded_includes htrail hnew

/-- A body that fails is repeated from what it left when the included files are. -/
theorem traceBody_rerun {f : TaskFile} {e : ExpandError}
    (hchild : ∀ next p q, (traceFile lib opts f.role f.scope left trail next p).Within opts K →
      Agree K (traceFile lib opts f.role f.scope left trail next p).after.expanded q.expanded →
        (traceFile lib opts f.role f.scope left trail next p).Repeats q.expanded
          (traceFile lib opts f.role f.scope left trail next q))
    (hfail : (traceBody lib opts f (traceFile lib opts f.role f.scope left trail) p).failure = some e)
    (hK : (traceBody lib opts f (traceFile lib opts f.role f.scope left trail) p).Within opts K)
    (h : Agree K (traceBody lib opts f (traceFile lib opts f.role f.scope left trail) p).after.expanded
      q.expanded) :
    (traceBody lib opts f (traceFile lib opts f.role f.scope left trail) p).Repeats q.expanded
      (traceBody lib opts f (traceFile lib opts f.role f.scope left trail) q) := by
  cases htasks : lib.tasks (f.location opts) with
  | error cause =>
    simp only [traceBody, htasks]
    exact .still rfl rfl rfl
  | ok tasks =>
    rw [traceBody_loaded htasks] at hfail hK h ⊢
    rw [traceBody_loaded htasks]
    rw [traceEnd_failed hfail] at h
    exact Trace.Repeats.traceEnd (includes_rerun hchild _ hK.left h) hfail

/-- From what a first run left, a task file ends as it did then and makes no entry. -/
theorem traceFile_rerun (hK : (traceFile lib opts role scope room trail file p).Within opts K)
    (h : Agree K (traceFile lib opts role scope room trail file p).after.expanded q.expanded) :
    (traceFile lib opts role scope room trail file p).Repeats q.expanded
      (traceFile lib opts role scope room trail file q) := by
  induction room generalizing trail file p q with
  | zero =>
    rw [traceFile, traceFile]
    refine Trace.Repeats.visiting ?_ rfl
    split_ifs
    · exact .still rfl rfl rfl
    · exact .still rfl rfl rfl
  | succ room ih =>
    have hself : TaskFile.key opts ⟨role, scope, file⟩ ∈ K := hK.self
    cases hfail : (traceFile lib opts role scope (room + 1) trail file p).failure with
    | none => exact traceFile_again hfail ((h _ hself).mp (key_mem_traceFile hfail))
    | some e =>
      rw [traceFile] at hK h hfail ⊢
      rw [traceFile]
      refine Trace.Repeats.visiting ?_ rfl
      dsimp only [Trace.visiting] at hfail h
      by_cases hcycle : TaskFile.location opts ⟨role, scope, file⟩ ∈ trail
      · rw [if_pos hcycle, if_pos hcycle]
        exact .still rfl rfl rfl
      · rw [if_neg hcycle] at hK h hfail
        rw [if_neg hcycle, if_neg hcycle]
        by_cases hknown : TaskFile.key opts ⟨role, scope, file⟩ ∈ p.expanded
        · rw [if_pos hknown] at hfail
          contradiction
        · rw [if_neg hknown] at hK h hfail
          -- The file is on the trail of the failure, so it has no entry.
          have hnew := notMem_expanded_traceBody (by simp) hknown hfail
          rw [if_neg hknown, if_neg (mt (h _ hself).mpr hnew)]
          exact traceBody_rerun (fun _ _ _ hK h => ih hK h) hfail
            (fun v hv => hK v (List.mem_cons_of_mem _ hv)) h

end Analysis

end RoleGraph
