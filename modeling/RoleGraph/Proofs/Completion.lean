import RoleGraph.Proofs.IncludePaths

/-!
# Traces that end without a failure

A trace without a failure did everything it had to do. Each lemma here says what that was: which
parts succeeded, what they found, and that their visits are among those of the whole. A visit that
succeeds is not on its own trail, the chain to it is not too long, and unless the memo had its file
every include of the file is visited one step further down the trail.
-/

namespace RoleGraph

namespace Analysis

namespace Trace

variable {ε β : Type} {V : List Visit}

/-- What is known of the visits of two parts is known of both. -/
theorem andThen_visits_subset {t : Trace ε} {next : Progress → Trace ε} (ht : t.failure = none) :
    (t.andThen next).visits ⊆ V ↔ t.visits ⊆ V ∧ (next t.after).visits ⊆ V := by
  rw [andThen_done ht]
  exact List.append_subset

/-- What each step in turn establishes, and no later step destroys, holds after all of them. -/
theorem each_establishes {K : β → Progress → Prop} {step : β → Progress → Trace ε} {items : List β}
    {p : Progress} (h : (each step items p).failure = none) (hV : (each step items p).visits ⊆ V)
    (hdone : ∀ b ∈ items, ∀ q, (step b q).failure = none → (step b q).visits ⊆ V →
      K b (step b q).after)
    (hkeep : ∀ b, ∀ c ∈ items, ∀ q, K b q → K b (step c q).after) :
    ∀ b ∈ items, K b (each step items p).after := by
  induction items generalizing p with
  | nil => simp
  | cons c rest ih =>
    obtain ⟨hc, hrest⟩ := andThen_failure_eq_none.mp h
    obtain ⟨hVc, hVrest⟩ := (andThen_visits_subset hc).mp hV
    have hkeep' : ∀ b, ∀ c ∈ rest, ∀ q, K b q → K b (step c q).after :=
      fun b d hd => hkeep b d (List.mem_cons_of_mem c hd)
    have hafter : (each step (c :: rest) p).after = (each step rest (step c p).after).after := by
      rw [each, andThen_done hc]
    rw [hafter]
    intro b hb
    rcases List.mem_cons.mp hb with rfl | hb
    · exact each_preserves hVrest (hdone b List.mem_cons_self p hc hVc) fun d hd q hq _ => hkeep' b d hd q hq
    · exact ih hrest hVrest (fun d hd => hdone d (List.mem_cons_of_mem c hd)) hkeep' b hb

/-- Steps that succeed in turn succeed one by one. -/
theorem each_failure_eq_none {step : β → Progress → Trace ε} {items : List β} {p : Progress}
    (h : (each step items p).failure = none) (hV : (each step items p).visits ⊆ V) :
    ∀ b ∈ items, ∃ q, (step b q).failure = none ∧ (step b q).visits ⊆ V :=
  each_establishes (K := fun b _ => ∃ q, (step b q).failure = none ∧ (step b q).visits ⊆ V) h hV
    (fun _ _ q hq hVq => ⟨q, hq, hVq⟩) fun _ _ _ _ hK => hK

/-- What steps that succeed add one by one adds up. -/
theorem each_accumulates {γ : Type} {R : List γ → Progress → Prop} {A : β → List γ}
    {step : β → Progress → Trace ε} {items : List β} {p : Progress} {xs : List γ}
    (h : (each step items p).failure = none) (hV : (each step items p).visits ⊆ V) (hp : R xs p)
    (hstep : ∀ b ∈ items, ∀ q ys, R ys q → (step b q).failure = none → (step b q).visits ⊆ V →
      R (ys ++ A b) (step b q).after) :
    R (xs ++ items.flatMap A) (each step items p).after := by
  induction items generalizing p xs with
  | nil =>
    rw [List.flatMap_nil, List.append_nil]
    exact hp
  | cons b rest ih =>
    obtain ⟨hb, hrest⟩ := andThen_failure_eq_none.mp h
    obtain ⟨hVb, hVrest⟩ := (andThen_visits_subset hb).mp hV
    have hfirst := hstep b List.mem_cons_self p xs hp hb hVb
    have hall := ih hrest hVrest hfirst fun c hc => hstep c (List.mem_cons_of_mem b hc)
    rw [each, andThen_done hb, List.flatMap_cons, ← List.append_assoc]
    exact hall

/-- What every step that succeeds keeps is kept by all of them in turn. -/
theorem each_keeps {P : Progress → Prop} {step : β → Progress → Trace ε} {items : List β} {p : Progress}
    (h : (each step items p).failure = none) (hp : P p)
    (hstep : ∀ b ∈ items, ∀ q, P q → (step b q).failure = none → P (step b q).after) :
    P (each step items p).after := by
  induction items generalizing p with
  | nil => exact hp
  | cons b rest ih =>
    obtain ⟨hb, hrest⟩ := andThen_failure_eq_none.mp h
    rw [each, andThen_done hb]
    exact ih hrest (hstep b List.mem_cons_self p hp hb) fun c hc => hstep c (List.mem_cons_of_mem b hc)

/-- A visit of steps that succeed in turn is a visit of one that succeeds. -/
theorem each_visit_done {step : β → Progress → Trace ε} {items : List β} {p : Progress} {v : Visit}
    (h : (each step items p).failure = none) (hV : (each step items p).visits ⊆ V)
    (hv : v ∈ (each step items p).visits) :
    ∃ b ∈ items, ∃ q, (step b q).failure = none ∧ (step b q).visits ⊆ V ∧ v ∈ (step b q).visits := by
  induction items generalizing p with
  | nil => simp [each] at hv
  | cons b rest ih =>
    obtain ⟨hb, hrest⟩ := andThen_failure_eq_none.mp h
    obtain ⟨hVb, hVrest⟩ := (andThen_visits_subset hb).mp hV
    rcases mem_visits_andThen hv with hv | hv
    · exact ⟨b, List.mem_cons_self, p, hb, hVb, hv⟩
    · obtain ⟨c, hc, hq⟩ := ih hrest hVrest hv
      exact ⟨c, List.mem_cons_of_mem b hc, hq⟩

end Trace

variable {lib : Library} {opts : Options} {role : Text} {scope : Scope} {room : ℕ} {trail : List Text}
  {file : Text} {p : Progress} {V : List Visit}

/-- An include succeeds when it resolves to a file that succeeds. -/
theorem traceInclude_done {location target : Text} {source : Node}
    {child : Text → Progress → Trace ExpandError}
    (h : (traceInclude role location scope source child target p).failure = none) :
    ∃ file, scope.resolve target = .ok file ∧ (child file p).failure = none ∧
      traceInclude role location scope source child target p =
        { after := (child file p).after.link source (p.graph.stored (.task role file)),
          visits := (child file p).visits } := by
  cases hresolve : scope.resolve target with
  | error cause => simp [traceInclude, hresolve] at h
  | ok file =>
    rw [traceInclude_resolved hresolve] at h ⊢
    have hchild := (Trace.andThen_failure_eq_none.mp h).1
    refine ⟨file, rfl, hchild, ?_⟩
    rw [Trace.andThen_done hchild, List.append_nil]

/-- The body of a task file succeeds when the file is sound and every include succeeds. -/
theorem traceBody_done {f : TaskFile} {child : Text → Progress → Trace ExpandError}
    (h : (traceBody lib opts f child p).failure = none) :
    ∃ tasks, lib.tasks (f.location opts) = .ok tasks ∧ (Task.scan opts.includeKeys tasks).fault = none ∧
      let includes := Trace.each
        (traceInclude f.role (f.location opts) f.scope (p.graph.stored (.task f.role f.file)) child)
        (Task.scan opts.includeKeys tasks).targets p
      includes.failure = none ∧
      traceBody lib opts f child p =
        { after := includes.after.mark (f.key opts), visits := includes.visits } := by
  cases htasks : lib.tasks (f.location opts) with
  | error cause => simp [traceBody, htasks] at h
  | ok tasks =>
    rw [traceBody_loaded htasks] at h ⊢
    obtain ⟨heach, hend⟩ := Trace.andThen_failure_eq_none.mp h
    cases hfault : (Task.scan opts.includeKeys tasks).fault with
    | some fault => simp [traceEnd, hfault] at hend
    | none =>
      refine ⟨tasks, rfl, hfault, heach, ?_⟩
      rw [Trace.andThen_done heach]
      simp [traceEnd]

/-- A task file succeeds off its trail and within the limit, by the memo or by its body. -/
theorem traceFile_done (h : (traceFile lib opts role scope room trail file p).failure = none) :
    let f : TaskFile := ⟨role, scope, file⟩
    ∃ left, room = left + 1 ∧ f.location opts ∉ trail ∧
      ((f.key opts ∈ p.expanded ∧
          traceFile lib opts role scope room trail file p =
            { after := p, visits := [f.visit opts trail p] }) ∨
        (f.key opts ∉ p.expanded ∧
          let body := traceBody lib opts f
            (traceFile lib opts role scope left (trail ++ [f.location opts])) p
          body.failure = none ∧
          traceFile lib opts role scope room trail file p =
            { after := body.after, visits := f.visit opts trail p :: body.visits })) := by
  intro f
  cases room with
  | zero =>
    rw [traceFile] at h
    dsimp only [Trace.visiting] at h
    split_ifs at h
  | succ left =>
    rw [traceFile] at h ⊢
    dsimp only [Trace.visiting] at h ⊢
    split_ifs at h ⊢ with hcycle hknown
    · exact ⟨left, rfl, hcycle, Or.inl ⟨hknown, rfl⟩⟩
    · exact ⟨left, rfl, hcycle, Or.inr ⟨hknown, h, by rw [h]⟩⟩

/-- A role succeeds when its directory of tasks exists and its main task file succeeds. -/
theorem traceRole_done {caller : Node}
    (h : (traceRole lib opts caller scope role p).failure = none) :
    lib.holds (tasksDir opts role) = .ok true ∧
      let main := traceFile lib opts role scope opts.maxDepth [] mainFile p
      main.failure = none ∧
      traceRole lib opts caller scope role p =
        { after := main.after.link caller (p.graph.stored (.task role mainFile)), visits := main.visits } := by
  unfold traceRole at h ⊢
  split at h
  · simp at h
  · simp at h
  · rename_i hdir
    rw [hdir]
    obtain ⟨hmain, -⟩ := Trace.andThen_failure_eq_none.mp h
    have hmain' : (traceFile lib opts role scope opts.maxDepth [] mainFile p).failure = none := by
      simpa [Trace.mapFailure] using hmain
    refine ⟨rfl, hmain', ?_⟩
    simp only [Trace.andThen_done hmain, List.append_nil]
    rfl

/-- A playbook succeeds when it loads and every role that it runs succeeds. -/
theorem tracePlaybook_done {location : Text} (h : (tracePlaybook lib opts location p).failure = none) :
    ∃ plays, lib.plays location = .ok plays ∧
      let root := (p.root location).graph.stored (.playbook location)
      (Trace.each (traceRef lib opts root) (roleRefs opts 0 plays) (p.root location)).failure = none ∧
      tracePlaybook lib opts location p =
        Trace.each (traceRef lib opts root) (roleRefs opts 0 plays) (p.root location) := by
  unfold tracePlaybook at h ⊢
  split at h
  · simp at h
  · rename_i plays hplays
    exact ⟨plays, hplays, h, rfl⟩

/-- A role that a playbook runs succeeds when the role does. -/
theorem traceRef_done {root : Node} {ref : RoleRef} (h : (traceRef lib opts root ref p).failure = none) :
    (traceRole lib opts root ref.scope ref.role p).failure = none := by
  simpa [traceRef, Trace.mapFailure] using h

/-- A visit that passes: its checks hold, and unless the memo had its file, each include is visited. -/
structure Visit.Passes (lib : Library) (opts : Options) (V : List Visit) (v : Visit) : Prop where
  off_trail : v.location opts ∉ v.trail
  within : v.trail.length < opts.maxDepth
  below : v.known = false → ∀ file, Includes lib opts v.scope (v.location opts) file →
    ∃ w ∈ V, w.toTaskFile = ⟨v.role, v.scope, file⟩ ∧ w.trail = v.trail ++ [v.location opts]

/-- The first visit from a task file on is the one to the file itself. -/
theorem visit_mem_traceFile : TaskFile.visit ⟨role, scope, file⟩ opts trail p ∈
    (traceFile lib opts role scope room trail file p).visits := by
  cases room <;> exact List.mem_cons_self

/-- Every visit of a task file that succeeds passes. -/
theorem traceFile_visits_pass (hroom : trail.length + room = opts.maxDepth)
    (h : (traceFile lib opts role scope room trail file p).failure = none)
    (hV : (traceFile lib opts role scope room trail file p).visits ⊆ V) :
    ∀ v ∈ (traceFile lib opts role scope room trail file p).visits, v.Passes lib opts V := by
  induction room generalizing trail file p with
  | zero =>
    obtain ⟨left, hleft, -⟩ := traceFile_done h
    omega
  | succ room ih =>
    obtain ⟨left, hleft, hcycle, hcases⟩ := traceFile_done h
    obtain rfl : room = left := by omega
    have hlength : (trail ++ [TaskFile.location opts ⟨role, scope, file⟩]).length + room = opts.maxDepth := by
      rw [List.length_append, List.length_singleton]
      omega
    rcases hcases with ⟨hknown, heq⟩ | ⟨hnew, hbody, heq⟩
    · rw [heq]
      intro v hv
      obtain rfl := List.mem_singleton.mp hv
      exact ⟨hcycle, by simp only [TaskFile.visit]; omega, by simp [TaskFile.visit, hknown]⟩
    · rw [heq] at hV ⊢
      obtain ⟨-, hVbody⟩ := List.cons_subset.mp hV
      obtain ⟨tasks, htasks, hfault, heach, hafter⟩ := traceBody_done hbody
      rw [hafter] at hVbody
      intro v hv
      rcases List.mem_cons.mp hv with rfl | hv
      · refine ⟨hcycle, by simp only [TaskFile.visit]; omega, fun _ => ?_⟩
        rintro next ⟨tasks', htasks', target, htarget, hresolve⟩
        obtain rfl : tasks = tasks' := Except.ok.inj (htasks.symm.trans htasks')
        have hmem := (Task.scan_targets_perm hfault).mem_iff.mpr htarget
        obtain ⟨q, hdone, hVq⟩ := Trace.each_failure_eq_none heach hVbody target hmem
        obtain ⟨next', hresolve', hchild, hinclude⟩ := traceInclude_done hdone
        obtain rfl : next = next' := Except.ok.inj (hresolve.symm.trans hresolve')
        rw [hinclude] at hVq
        exact ⟨_, hVq visit_mem_traceFile, rfl, rfl⟩
      · rw [hafter] at hv
        obtain ⟨target, -, q, hdone, hVq, hv⟩ := Trace.each_visit_done heach hVbody hv
        obtain ⟨next, -, hchild, hinclude⟩ := traceInclude_done hdone
        rw [hinclude] at hVq hv
        exact ih hlength hchild hVq v hv

/-- Every visit of a playbook that succeeds passes. -/
theorem tracePlaybook_visits_pass {location : Text}
    (h : (tracePlaybook lib opts location p).failure = none) :
    ∀ v ∈ (tracePlaybook lib opts location p).visits,
      v.Passes lib opts (tracePlaybook lib opts location p).visits := by
  obtain ⟨plays, -, heach, heq⟩ := tracePlaybook_done h
  rw [heq]
  intro v hv
  obtain ⟨ref, -, q, hdone, hV, hv⟩ := Trace.each_visit_done heach (List.Subset.refl _) hv
  obtain ⟨-, hmain, hrole⟩ := traceRole_done (traceRef_done hdone)
  simp only [traceRef, Trace.mapFailure, hrole] at hV hv
  exact traceFile_visits_pass (by simp) hmain hV v hv

/-- A playbook that succeeds visits the main task file of every role that it runs, first of all. -/
theorem tracePlaybook_visits_main {location : Text}
    (h : (tracePlaybook lib opts location p).failure = none) (hruns : RunsRole lib opts location role scope) :
    lib.holds (tasksDir opts role) = .ok true ∧
      ∃ v ∈ (tracePlaybook lib opts location p).visits,
        v.toTaskFile = ⟨role, scope, mainFile⟩ ∧ v.trail = [] := by
  obtain ⟨plays, hplays, heach, heq⟩ := tracePlaybook_done h
  obtain ⟨ref, href, rfl, rfl⟩ := hruns.exists_ref hplays
  rw [heq]
  obtain ⟨q, hdone, hV⟩ := Trace.each_failure_eq_none heach (List.Subset.refl _) ref href
  obtain ⟨hdir, hmain, hrole⟩ := traceRole_done (traceRef_done hdone)
  simp only [traceRef, Trace.mapFailure, hrole] at hV
  exact ⟨hdir, _, hV visit_mem_traceFile, rfl, rfl⟩

end Analysis

end RoleGraph
