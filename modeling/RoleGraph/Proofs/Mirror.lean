import RoleGraph.Proofs.Trace

/-!
# Steps mirror their traces

Every step of an analysis ends as its trace says, whatever the log holds. The proofs follow the
steps: the log is only ever written, each addition to the graph is one of the trace, and an edge is
never refused because both of its nodes are added before it.
-/

namespace RoleGraph

namespace Analysis

variable {ε ε' α β : Type}

/-- A step from `s` ends as a trace says; when it succeeds, it returns `a`. -/
structure Mirrors (step : Step ε α) (s : State) (t : Trace ε) (a : α) : Prop where
  result : (step.run s).1 = match t.failure with
    | none => .ok a
    | some e => .error e
  progress : (step.run s).2.progress = t.after

/-- Sequenced steps run the second one where the first one ended. -/
theorem run_bind (x : Step ε α) (f : α → Step ε β) (s : State) :
    (x >>= f).run s = match x.run s with
      | (.ok a, s') => (f a).run s'
      | (.error e, s') => (.error e, s') := by
  rw [ExceptT.run_bind]
  simp only [bind, StateT.bind]
  rcases x.run s with ⟨_ | _, _⟩ <;> rfl

/-- A wrapped step ends where the step does, with its failure wrapped. -/
theorem run_wrapping (wrap : ε' → ε) (step : Step ε' α) (s : State) :
    (wrapping wrap step).run s = match step.run s with
      | (.ok a, s') => (.ok a, s')
      | (.error e, s') => (.error (wrap e), s') := by
  rw [wrapping, ExceptT.run_mk]
  simp only [bind, StateT.bind]
  rcases step.run s with ⟨_ | _, _⟩ <;> rfl

/-- The edge of a call whose nodes were just added is accepted. -/
theorem run_addCall (wrap : Graph.EdgeError → ε) (source target : Node) (s : State) :
    (addCall wrap source target).run { s with graph := (s.graph.addNode target).addNode source } =
      (.ok (), { s with graph := s.graph.link source target }) := by
  have hget : ∀ st : State, (get : Step ε State).run st = (.ok st, st) := fun _ => rfl
  rw [addCall, run_bind, hget]
  dsimp only
  rw [Graph.addEdge_link]
  rfl

/-- An outcome that is no failure is the success. -/
theorem eq_ok_of_isOk {r : Except ε Unit} (h : r.isOk = true) : r = .ok () := by
  cases r with
  | ok done => rfl
  | error e => contradiction

/-- Success is found without looking at the failure. -/
instance decidableOk (r : Except ε Unit) : Decidable (r = .ok ()) :=
  decidable_of_iff (r.isOk = true) ⟨eq_ok_of_isOk, fun h => by rw [h]; rfl⟩

namespace Mirrors

/-- A step fails as its trace does. -/
theorem failure {step : Step ε α} {s : State} {t : Trace ε} {a : α} (h : Mirrors step s t a) {e : ε} :
    (step.run s).1 = .error e ↔ t.failure = some e := by
  rw [h.result]
  cases t.failure with
  | none => simp
  | some e' => simp

/-- A step succeeds when its trace has no failure. -/
theorem success {step : Step ε α} {s : State} {t : Trace ε} {a : α} (h : Mirrors step s t a) :
    (step.run s).1 = .ok a ↔ t.failure = none := by
  rw [h.result]
  cases t.failure with
  | none => simp
  | some e => simp

/-- A value is returned without a trace. -/
theorem pure (a : α) (s : State) :
    Mirrors (Pure.pure a : Step ε α) s { after := s.progress } a := ⟨rfl, rfl⟩

/-- A failure is all there is to its trace. -/
theorem throw (e : ε) (a : α) (s : State) :
    Mirrors (MonadExcept.throw e : Step ε α) s { failure := some e, after := s.progress } a :=
  ⟨rfl, rfl⟩

/-- Sequenced steps have sequenced traces. -/
theorem bind {x : Step ε α} {f : α → Step ε β} {s : State} {t : Trace ε} {a : α} {b : β}
    {next : Progress → Trace ε} (hx : Mirrors x s t a)
    (hf : ∀ s', s'.progress = t.after → Mirrors (f a) s' (next t.after) b) :
    Mirrors (x >>= f) s (t.andThen next) b := by
  rcases hrun : x.run s with ⟨r, s'⟩
  have hresult := hx.result
  have hprogress := hx.progress
  rw [hrun] at hresult hprogress
  cases hfail : t.failure with
  | none =>
    rw [hfail] at hresult
    subst hresult
    have hb := hf s' hprogress
    refine ⟨?_, ?_⟩ <;> simp only [run_bind, hrun, Trace.andThen, hfail]
    · exact hb.result
    · exact hb.progress
  | some e =>
    rw [hfail] at hresult
    subst hresult
    refine ⟨?_, ?_⟩ <;> simp only [run_bind, hrun, Trace.andThen, hfail]
    exact hprogress

/-- A record in the log leaves no trace. -/
theorem note_then {level : Log.Level} {message : Text} {attrs : List (Text × Log.Value)}
    {next : Unit → Step ε α} {s : State} {t : Trace ε} {a : α}
    (h : ∀ s', s'.progress = s.progress → Mirrors (next ()) s' t a) :
    Mirrors (note level message attrs >>= next) s t a := by
  have hnext := h { s with log := s.log ++ [⟨level, message, attrs⟩] } rfl
  exact ⟨hnext.result, hnext.progress⟩

/-- A record that is written under a condition leaves no trace either way. -/
theorem note_if_then {c : Prop} [Decidable c] {level : Log.Level} {message : Text}
    {attrs : List (Text × Log.Value)} {next : Unit → Step ε α} {s : State} {t : Trace ε} {a : α}
    (h : ∀ s', s'.progress = s.progress → Mirrors (next ()) s' t a) :
    Mirrors (if c then note level message attrs >>= next else next ()) s t a := by
  split
  · exact note_then h
  · exact h s rfl

/-- Reading the state leaves no trace. -/
theorem get_then {f : State → Step ε α} {s : State} {t : Trace ε} {a : α}
    (h : Mirrors (f s) s t a) : Mirrors (get >>= f) s t a := ⟨h.result, h.progress⟩

/-- Adding a node goes on where the node is added. -/
theorem addNode_then {n : Node} {next : Unit → Step ε α} {s : State} {t : Trace ε} {a : α}
    (h : Mirrors (next ()) { s with graph := s.graph.addNode n } t a) :
    Mirrors (addNode n >>= next) s t a := ⟨h.result, h.progress⟩

/-- A visit is not seen by the step that makes it. -/
theorem visiting {step : Step ExpandError α} {s : State} {t : Trace ExpandError} {a : α} {v : Visit}
    (h : Mirrors step s t a) : Mirrors step s (t.visiting v) a := ⟨h.result, h.progress⟩

/-- A failure with another meaning has the trace with that meaning. -/
theorem wrapping {step : Step ε' α} {s : State} {t : Trace ε'} {a : α} (wrap : ε' → ε)
    (h : Mirrors step s t a) : Mirrors (Analysis.wrapping wrap step) s (t.mapFailure wrap) a := by
  rcases hrun : step.run s with ⟨r, s'⟩
  have hresult := h.result
  have hprogress := h.progress
  rw [hrun] at hresult hprogress
  cases hfail : t.failure with
  | none =>
    rw [hfail] at hresult
    subst hresult
    refine ⟨?_, ?_⟩ <;> simp only [run_wrapping, hrun, Trace.mapFailure, hfail, Option.map_none]
    exact hprogress
  | some e =>
    rw [hfail] at hresult
    subst hresult
    refine ⟨?_, ?_⟩ <;> simp only [run_wrapping, hrun, Trace.mapFailure, hfail, Option.map_some]
    exact hprogress

/-- A call whose target is new adds both nodes and the edge. -/
theorem link_then {wrap : Graph.EdgeError → ε} {source target : Node} {next : Unit → Step ε α}
    {s : State} {t : Trace ε} {a : α}
    (h : ∀ s', s'.progress = s.progress.link source target → Mirrors (next ()) s' t a) :
    Mirrors (addNode target >>= fun _ => addNode source >>= fun _ =>
      addCall wrap source target >>= next) s t a := by
  have hnext := h { s with graph := s.graph.link source target } rfl
  have hrun : (addNode target >>= fun _ => addNode source >>= fun _ =>
      addCall wrap source target >>= next).run s =
        (next ()).run { s with graph := s.graph.link source target } := by
    rw [run_bind]
    change (addNode source >>= fun _ => addCall wrap source target >>= next).run
      { s with graph := s.graph.addNode target } = _
    rw [run_bind]
    change (addCall wrap source target >>= next).run
      { s with graph := (s.graph.addNode target).addNode source } = _
    rw [run_bind, run_addCall]
  exact ⟨hrun ▸ hnext.result, hrun ▸ hnext.progress⟩

/-- Steps in turn mirror their traces in turn, as long as a condition of each one is kept. -/
theorem forM {step : β → Step ε Unit} {trace : β → Progress → Trace ε} {K : Progress → Prop}
    (hkeep : ∀ b p, K p → K (trace b p).after)
    (hstep : ∀ b s, K s.progress → Mirrors (step b) s (trace b s.progress) ())
    (items : List β) {s : State} (hs : K s.progress) :
    Mirrors (items.forM step) s (Trace.each trace items s.progress) () := by
  induction items generalizing s with
  | nil => exact Mirrors.pure () s
  | cons b rest ih =>
    change Mirrors (step b >>= fun _ => rest.forM step) s _ ()
    apply Mirrors.bind (hstep b s hs)
    intro s' hs'
    rw [← hs']
    exact ih (hs' ▸ hkeep b s.progress hs)

end Mirrors

/-- Following includes mirrors its trace when following one file does. -/
theorem mirrors_followAll (role location : Text) (scope : Scope) (node : Node)
    {child : Text → Step ExpandError Node} {trace : Text → Progress → Trace ExpandError}
    (hchild : ∀ file s, Mirrors (child file) s (trace file s.progress)
      (s.graph.stored (.task role file)))
    (targets : List Text) (s : State) :
    Mirrors (followAll role location scope node child targets) s
      (Trace.each (traceInclude role location scope node trace) targets s.progress) () := by
  induction targets generalizing s with
  | nil => exact Mirrors.pure () s
  | cons target rest ih =>
    apply Mirrors.note_then
    intro s₁ h₁
    rw [Trace.each, traceInclude]
    cases hresolve : scope.resolve target with
    | error e =>
      rw [Trace.andThen_failed rfl, ← h₁]
      exact Mirrors.throw _ () s₁
    | ok file =>
      apply Mirrors.note_if_then
      intro s₂ h₂
      have hprogress : s₂.progress = s.progress := h₂.trans h₁
      have hfile := hchild file s₂
      rw [hprogress] at hfile
      have hnode : s₂.graph = s.progress.graph := congrArg Progress.graph hprogress
      rw [hnode] at hfile
      rw [Trace.andThen_assoc]
      apply Mirrors.bind hfile
      intro s₃ h₃
      apply Mirrors.link_then
      intro s₄ h₄
      rw [Trace.andThen_still, ← h₃, ← h₄]
      exact ih s₄

/-- Following a task file mirrors its trace; the node of the file is the one known before. -/
theorem mirrors_expand (lib : Library) (opts : Options) (role : Text) (scope : Scope) (room : ℕ)
    (trail : List Text) (file : Text) (s : State) :
    Mirrors (expand lib opts role (tasksDir opts role) scope room trail file) s
      (traceFile lib opts role scope room trail file s.progress)
      (s.graph.stored (.task role file)) := by
  induction room generalizing trail file s with
  | zero =>
    rw [expand, traceFile]
    apply Mirrors.visiting
    by_cases hcycle : TaskFile.location opts ⟨role, scope, file⟩ ∈ trail
    · rw [if_pos hcycle]
      exact (if_pos hcycle).symm ▸ Mirrors.throw _ _ s
    · rw [if_neg hcycle]
      exact (if_neg hcycle).symm ▸ Mirrors.throw _ _ s
  | succ room ih =>
    rw [expand, traceFile]
    apply Mirrors.visiting
    by_cases hcycle : TaskFile.location opts ⟨role, scope, file⟩ ∈ trail
    · rw [if_pos hcycle, if_pos (by exact hcycle)]
      exact ⟨rfl, rfl⟩
    · rw [if_neg hcycle, if_neg (by exact hcycle)]
      apply Mirrors.get_then
      apply Mirrors.get_then
      by_cases hknown : TaskFile.key opts ⟨role, scope, file⟩ ∈ s.expanded
      · rw [if_pos (by exact hknown), if_pos (by exact hknown)]
        apply Mirrors.note_then
        intro s₁ h₁
        rw [← h₁]
        exact Mirrors.pure _ s₁
      · rw [if_neg (by exact hknown), if_neg (by exact hknown)]
        apply Mirrors.note_then
        intro s₁ h₁
        rw [traceBody, ← h₁]
        have hlocation : taskLocation (tasksDir opts role) file =
          TaskFile.location opts ⟨role, scope, file⟩ := rfl
        rw [hlocation]
        cases lib.tasks (TaskFile.location opts ⟨role, scope, file⟩) with
        | error e => exact Mirrors.throw _ _ s₁
        | ok tasks =>
          have hgraph : s₁.graph = s.graph := congrArg Progress.graph h₁
          have hall := mirrors_followAll role (TaskFile.location opts ⟨role, scope, file⟩) scope
            (s.graph.stored (.task role file)) (ih (trail ++ [TaskFile.location opts ⟨role, scope, file⟩]))
            (Task.scan opts.includeKeys tasks).targets s₁
          rw [← hgraph] at hall ⊢
          apply Mirrors.bind hall
          intro s₂ h₂
          rw [← h₂]
          cases (Task.scan opts.includeKeys tasks).fault with
          | some fault => exact Mirrors.throw _ _ s₂
          | none => exact ⟨rfl, rfl⟩

/-- Adding a call mirrors its trace. -/
theorem mirrors_call (caller target : Node) (s : State) :
    Mirrors (addNode target >>= fun _ => addCall (fun e => RoleError.expand (.edge e)) caller target) s
      (traceCall caller target s.progress) () := by
  apply Mirrors.addNode_then
  apply Mirrors.get_then
  unfold traceCall
  cases hedge : (s.graph.addNode target).addEdge (some caller) (some target) with
  | ok g =>
    simp only [State.progress, hedge]
    exact ⟨rfl, rfl⟩
  | error e =>
    simp only [State.progress, hedge]
    exact Mirrors.throw _ () _

/-- Following a role mirrors its trace, whatever node runs it. -/
theorem mirrors_followRole_from (lib : Library) (opts : Options) (caller : Node) (scope : Scope)
    (role : Text) (s : State) :
    Mirrors (followRole lib opts caller scope role) s
      (traceRoleFrom lib opts caller scope role s.progress) () := by
  unfold followRole traceRoleFrom
  apply Mirrors.note_then
  intro s₁ h₁
  apply Mirrors.note_if_then
  intro s₂ h₂
  have hprogress : s₂.progress = s.progress := h₂.trans h₁
  rw [← hprogress]
  dsimp only
  cases lib.holds (tasksDir opts role) with
  | error e => exact Mirrors.throw _ () s₂
  | ok there =>
    cases there with
    | false => exact Mirrors.throw _ () s₂
    | true =>
      apply Mirrors.bind ((mirrors_expand lib opts role scope _ _ _ s₂).wrapping RoleError.expand)
      intro s₃ h₃
      rw [← h₃]
      exact mirrors_call _ _ s₃

/-- A call from a known node is accepted. -/
theorem traceCall_known {caller target : Node} {p : Progress} (h : caller.id ∈ p.graph.ids) :
    traceCall caller target p = { after := p.link caller target } := by
  have hknown : caller.id ∈ (p.graph.addNode target).ids := Graph.mem_ids_addNode.mpr (Or.inl h)
  have hedge := Graph.addEdge_link p.graph caller target
  rw [Graph.addNode_of_mem hknown] at hedge
  rw [traceCall, hedge]
  rfl

/-- A known node runs a role without its call being refused. -/
theorem traceRoleFrom_known (lib : Library) (opts : Options) {caller : Node} (scope : Scope) (role : Text)
    {p : Progress} (h : caller.id ∈ p.graph.ids) :
    traceRoleFrom lib opts caller scope role p = traceRole lib opts caller scope role p := by
  unfold traceRoleFrom traceRole
  split
  · rfl
  · rfl
  · have hafter : caller.id ∈ (traceFile lib opts role scope opts.maxDepth [] mainFile p).after.graph.ids :=
      traceFile_preserves (P := fun q => caller.id ∈ q.graph.ids) lib opts role scope _ _ _
        (fun _ _ _ hq => Graph.mem_ids_link.mpr (Or.inl hq)) (fun _ _ _ hq => hq) h
    unfold Trace.andThen
    split
    · rfl
    · rw [Trace.mapFailure, traceCall_known hafter]

/-- Following a role mirrors its trace when the node that runs it is in the graph. -/
theorem mirrors_followRole (lib : Library) (opts : Options) {caller : Node} (scope : Scope)
    (role : Text) {s : State} (hcaller : caller.id ∈ s.progress.graph.ids) :
    Mirrors (followRole lib opts caller scope role) s
      (traceRole lib opts caller scope role s.progress) () := by
  rw [← traceRoleFrom_known lib opts scope role hcaller]
  exact mirrors_followRole_from lib opts caller scope role s

/-- Following a role keeps a known node known. -/
theorem known_traceRef (lib : Library) (opts : Options) (root : Node) (id : Text) (ref : RoleRef)
    (p : Progress) (h : id ∈ p.graph.ids) : id ∈ (traceRef lib opts root ref p).after.graph.ids :=
  traceRole_preserves (P := fun q => id ∈ q.graph.ids) lib opts root ref.scope ref.role
    (fun _ _ _ h => Graph.mem_ids_link.mpr (Or.inl h)) (fun _ _ h => h) h

/-- Following the roles of a play mirrors their traces in turn. -/
theorem mirrors_followPlay (lib : Library) (opts : Options) {root : Node} (index : ℕ) (play : Play)
    {s : State} (hroot : root.id ∈ s.progress.graph.ids) :
    Mirrors (followPlay lib opts root index play) s
      (Trace.each (traceRef lib opts root)
        ((rolesOf opts play).map fun role => ⟨play.displayName index, role, play.vars⟩) s.progress) () := by
  have hroles : ∀ s' : State, s'.progress = s.progress →
      Mirrors ((rolesOf opts play).forM fun role => wrapping (.play root.id (play.displayName index))
        (followRole lib opts root play.vars role)) s'
          (Trace.each (traceRef lib opts root)
            ((rolesOf opts play).map fun role => ⟨play.displayName index, role, play.vars⟩) s.progress) () := by
    intro s' hs'
    rw [← hs'] at hroot
    rw [Trace.each_map, ← hs']
    apply Mirrors.forM (K := fun p => root.id ∈ p.graph.ids)
    · intro role p hp
      exact known_traceRef lib opts root root.id _ p hp
    · intro role t ht
      exact (mirrors_followRole lib opts play.vars role ht).wrapping _
    · exact hroot
  unfold followPlay
  apply Mirrors.note_then
  intro s₁ h₁
  split
  · apply Mirrors.note_if_then
    intro s₂ h₂
    exact hroles s₂ (h₂.trans h₁)
  · exact hroles s₁ h₁

/-- Following plays in order mirrors the traces of their roles in turn. -/
theorem mirrors_followPlays (lib : Library) (opts : Options) {root : Node} (index : ℕ)
    (plays : List Play) {s : State} (hroot : root.id ∈ s.progress.graph.ids) :
    Mirrors (followPlays lib opts root index plays) s
      (Trace.each (traceRef lib opts root) (roleRefs opts index plays) s.progress) () := by
  induction plays generalizing index s with
  | nil => exact Mirrors.pure () s
  | cons play rest ih =>
    rw [roleRefs_cons, Trace.each_append]
    apply Mirrors.bind (mirrors_followPlay lib opts index play hroot)
    intro s₁ h₁
    rw [← h₁]
    apply ih
    rw [h₁]
    exact Trace.each_preserves (P := fun p => root.id ∈ p.graph.ids) (List.Subset.refl _) hroot
      fun ref _ p hp _ => known_traceRef lib opts root root.id ref p hp

/-- Following a playbook mirrors its trace, from any state. -/
theorem mirrors_followPlaybook (lib : Library) (opts : Options) (location : Text) (s : State) :
    Mirrors (followPlaybook lib opts location) s
      (tracePlaybook lib opts location s.progress) () := by
  unfold followPlaybook tracePlaybook
  apply Mirrors.note_then
  intro s₁ h₁
  rw [← h₁]
  cases lib.plays location with
  | error e => exact Mirrors.throw _ () s₁
  | ok plays =>
    -- Whatever is said about a shared root, the plays are followed once the root is stored.
    have hplays : ∀ s₂ : State, s₂.progress = s₁.progress →
        Mirrors (addNode (.playbook location) >>= fun _ => get >>= fun (s : State) =>
          note .info "created root node" [("id", .text (s.graph.stored (.playbook location)).id)] >>=
            fun _ => followPlays lib opts (s.graph.stored (.playbook location)) 0 plays) s₂
          (Trace.each (traceRef lib opts ((s₁.progress.root location).graph.stored (.playbook location)))
            (roleRefs opts 0 plays) (s₁.progress.root location)) () := by
      intro s₂ h₂
      apply Mirrors.addNode_then
      apply Mirrors.get_then
      apply Mirrors.note_then
      intro s₃ h₃
      have hroot : s₃.progress = s₁.progress.root location := by
        rw [h₃, ← h₂]
        rfl
      rw [← hroot]
      have hstored : s₂.graph.addNode (.playbook location) = s₃.graph :=
        (congrArg Progress.graph h₃).symm
      simp only [hstored]
      apply mirrors_followPlays
      rw [Graph.stored_id, hroot]
      simp [Progress.root]
    apply Mirrors.get_then
    split
    · apply Mirrors.note_if_then
      exact hplays
    · exact hplays s₁ rfl

end Analysis

end RoleGraph
