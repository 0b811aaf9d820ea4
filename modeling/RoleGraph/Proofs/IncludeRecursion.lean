import RoleGraph.Proofs.IncludePaths
import RoleGraph.Proofs.Mirror

/-!
# The recursion over includes

A task file is worked off from a list that grows at its end: a block adds the tasks inside it, and an
include follows its file, with one more location on the trail, before the rest of the list. The rules
here say so without any bound on the recursion, so a file whose expansion would go on for ever would have
no derivation. Each file has exactly one, whatever was found before. Two measures carry this: below a call
the trail comes nearer to the limit, and within a file the parts of the work list become fewer. The bounded
recursion of the analysis is therefore the whole of it, and its visits show the trail of every call.
-/

namespace RoleGraph

namespace Analysis

/-- The checks with which a call for a task file begins: its location is not on the trail, and the trail is
below the limit. -/
structure Admits (opts : Options) (trail : List Text) (f : TaskFile) : Prop where
  off_trail : f.location opts ∉ trail
  within : trail.length < opts.maxDepth

/-- The task file that an include of a task file resolves to. -/
def TaskFile.sibling (f : TaskFile) (file : Text) : TaskFile := ⟨f.role, f.scope, file⟩

mutual

/-- How a call for a task file ends below a trail, with every visit on the way. -/
inductive Expands (lib : Library) (opts : Options) : List Text → TaskFile → Progress → Trace ExpandError → Prop
  /-- The file is on its own trail. -/
  | cycle {trail : List Text} {f : TaskFile} {p : Progress} (hcycle : f.location opts ∈ trail) :
      Expands lib opts trail f p (Trace.visiting (f.visit opts trail p)
        { failure := some (.cycle f.role (trail ++ [f.location opts])), after := p })
  /-- The trail is at the limit. -/
  | tooDeep {trail : List Text} {f : TaskFile} {p : Progress} (hoff : f.location opts ∉ trail)
      (hdeep : opts.maxDepth ≤ trail.length) :
      Expands lib opts trail f p (Trace.visiting (f.visit opts trail p)
        { failure := some (.tooDeep f.role (f.location opts) opts.maxDepth), after := p })
  /-- The file was followed to its end before, under the same variables. -/
  | known {trail : List Text} {f : TaskFile} {p : Progress} (hadmits : Admits opts trail f)
      (hknown : f.key opts ∈ p.expanded) :
      Expands lib opts trail f p (Trace.visiting (f.visit opts trail p) { after := p })
  /-- The file cannot be loaded. -/
  | unloaded {trail : List Text} {f : TaskFile} {p : Progress} {e : LoadError} (hadmits : Admits opts trail f)
      (hnew : f.key opts ∉ p.expanded) (hload : lib.tasks (f.location opts) = .error e) :
      Expands lib opts trail f p
        (Trace.visiting (f.visit opts trail p) { failure := some (.load f.role e), after := p })
  /-- The tasks of the file are worked off, below a trail that ends in the file. -/
  | worked {trail : List Text} {f : TaskFile} {p : Progress} {tasks : List Task} {t : Trace ExpandError}
      (hadmits : Admits opts trail f) (hnew : f.key opts ∉ p.expanded)
      (hload : lib.tasks (f.location opts) = .ok tasks)
      (hworks : Works lib opts (trail ++ [f.location opts]) f (p.graph.stored (.task f.role f.file)) 0 tasks p t) :
      Expands lib opts trail f p (Trace.visiting (f.visit opts trail p) t)

/-- How the work list of a task file ends below a trail. The file has a node, and the first task of the list has
a position. -/
inductive Works (lib : Library) (opts : Options) : List Text → TaskFile → Node → ℕ → List Task → Progress →
    Trace ExpandError → Prop
  /-- Nothing is left, and the memo gets its entry. -/
  | done {trail : List Text} {f : TaskFile} {node : Node} {index : ℕ} {p : Progress} :
      Works lib opts trail f node index [] p { after := p.mark (f.key opts) }
  /-- A block adds the tasks inside it at the end of the list. -/
  | opened {trail : List Text} {f : TaskFile} {node : Node} {index : ℕ} {task : Task} {rest nested : List Task}
      {p : Progress} {t : Trace ExpandError} (hb : task.isBlock = true) (hblock : task.block = .ok nested)
      (hrest : Works lib opts trail f node (index + 1) (rest ++ nested) p t) :
      Works lib opts trail f node index (task :: rest) p t
  /-- A block with a faulty section ends the work. -/
  | closed {trail : List Text} {f : TaskFile} {node : Node} {index : ℕ} {task : Task} {rest : List Task}
      {p : Progress} {fault : TaskFault} (hb : task.isBlock = true) (hblock : task.block = .error fault) :
      Works lib opts trail f node index (task :: rest) p
        { failure := some (.task f.role (f.location opts) index fault), after := p }
  /-- A task without an include is passed over. -/
  | passed {trail : List Text} {f : TaskFile} {node : Node} {index : ℕ} {task : Task} {rest : List Task}
      {p : Progress} {t : Trace ExpandError} (hb : task.isBlock = false)
      (hincluded : task.included opts.includeKeys = .ok none)
      (hrest : Works lib opts trail f node (index + 1) rest p t) :
      Works lib opts trail f node index (task :: rest) p t
  /-- A faulty include ends the work. -/
  | faulty {trail : List Text} {f : TaskFile} {node : Node} {index : ℕ} {task : Task} {rest : List Task}
      {p : Progress} {fault : TaskFault} (hb : task.isBlock = false)
      (hincluded : task.included opts.includeKeys = .error fault) :
      Works lib opts trail f node index (task :: rest) p
        { failure := some (.task f.role (f.location opts) index fault), after := p }
  /-- An include that the variables do not resolve ends the work. -/
  | unresolved {trail : List Text} {f : TaskFile} {node : Node} {index : ℕ} {task : Task} {rest : List Task}
      {p : Progress} {target : Text} {e : ResolveError} (hb : task.isBlock = false)
      (hincluded : task.included opts.includeKeys = .ok (some target)) (hresolve : f.scope.resolve target = .error e) :
      Works lib opts trail f node index (task :: rest) p
        { failure := some (.unresolved f.role (f.location opts) e), after := p }
  /-- A call that fails ends the work. -/
  | failed {trail : List Text} {f : TaskFile} {node : Node} {index : ℕ} {task : Task} {rest : List Task}
      {p : Progress} {target file : Text} {e : ExpandError} {t : Trace ExpandError} (hb : task.isBlock = false)
      (hincluded : task.included opts.includeKeys = .ok (some target)) (hresolve : f.scope.resolve target = .ok file)
      (hcall : Expands lib opts trail (f.sibling file) p t) (hfailure : t.failure = some e) :
      Works lib opts trail f node index (task :: rest) p t
  /-- A call that succeeds is added to the graph, and the work goes on. -/
  | called {trail : List Text} {f : TaskFile} {node : Node} {index : ℕ} {task : Task} {rest : List Task}
      {p : Progress} {target file : Text} {t u : Trace ExpandError} (hb : task.isBlock = false)
      (hincluded : task.included opts.includeKeys = .ok (some target)) (hresolve : f.scope.resolve target = .ok file)
      (hcall : Expands lib opts trail (f.sibling file) p t) (hsuccess : t.failure = none)
      (hrest : Works lib opts trail f node (index + 1) rest
        (t.after.link node (p.graph.stored (.task f.role file))) u) :
      Works lib opts trail f node index (task :: rest) p { u with visits := t.visits ++ u.visits }

end

variable {lib : Library} {opts : Options} {trail : List Text} {f : TaskFile} {node : Node} {index : ℕ}
  {tasks rest : List Task} {task : Task} {p : Progress} {t : Trace ExpandError}
  {child : Text → Progress → Trace ExpandError}

/-! ## Traces in the order of the work list -/

/-- Trace a work list of a task file: its includes in turn, followed by the end of the file. -/
def traceWork (opts : Options) (f : TaskFile) (node : Node) (child : Text → Progress → Trace ExpandError)
    (index : ℕ) (tasks : List Task) (p : Progress) : Trace ExpandError :=
  (Trace.each (traceInclude f.role (f.location opts) f.scope node child)
    (Task.scanFrom opts.includeKeys index tasks).targets p).andThen
      (traceEnd f opts (Task.scanFrom opts.includeKeys index tasks).fault)

/-- Trace the call for a task file below a trail. -/
def traceCallee (lib : Library) (opts : Options) (trail : List Text) (f : TaskFile) (p : Progress) :
    Trace ExpandError :=
  traceFile lib opts f.role f.scope (opts.maxDepth - trail.length) trail f.file p

/-- A work list that starts with a block is traced with the inside of the block at its end. -/
theorem traceWork_block (hb : task.isBlock = true) :
    traceWork opts f node child index (task :: rest) p =
      match task.block with
      | .error fault => { failure := some (.task f.role (f.location opts) index fault), after := p }
      | .ok nested => traceWork opts f node child (index + 1) (rest ++ nested) p := by
  rw [traceWork, Task.scanFrom_cons, if_pos hb]
  cases task.block <;> rfl

/-- A work list that starts with another task is traced with the include of the task, if any, before the rest. -/
theorem traceWork_plain (hb : task.isBlock = false) :
    traceWork opts f node child index (task :: rest) p =
      match task.included opts.includeKeys with
      | .error fault => { failure := some (.task f.role (f.location opts) index fault), after := p }
      | .ok none => traceWork opts f node child (index + 1) rest p
      | .ok (some target) =>
        (traceInclude f.role (f.location opts) f.scope node child target p).andThen
          (traceWork opts f node child (index + 1) rest) := by
  rw [traceWork, Task.scanFrom_cons, if_neg (by simp [hb])]
  rcases task.included opts.includeKeys with fault | (_ | target)
  · rfl
  · rfl
  · exact Trace.andThen_assoc _ _ _

/-- A call is traced check by check. -/
theorem traceCallee_eq (lib : Library) (opts : Options) (trail : List Text) (f : TaskFile) (p : Progress) :
    traceCallee lib opts trail f p = Trace.visiting (f.visit opts trail p)
      (if f.location opts ∈ trail then
        { failure := some (.cycle f.role (trail ++ [f.location opts])), after := p }
      else if opts.maxDepth ≤ trail.length then
        { failure := some (.tooDeep f.role (f.location opts) opts.maxDepth), after := p }
      else if f.key opts ∈ p.expanded then { after := p }
      else traceBody lib opts f
        (fun file => traceCallee lib opts (trail ++ [f.location opts]) (f.sibling file)) p) := by
  unfold traceCallee
  rw [List.length_append, List.length_singleton, Nat.sub_add_eq]
  cases hroom : opts.maxDepth - trail.length with
  | zero =>
    have hdeep : opts.maxDepth ≤ trail.length := by omega
    rw [traceFile, if_pos hdeep]
  | succ room =>
    have hdeep : ¬ opts.maxDepth ≤ trail.length := by omega
    rw [traceFile, if_neg hdeep]
    rfl

/-- A call that passes the checks is traced by the memo and the file. -/
theorem Admits.traceCallee_eq (h : Admits opts trail f) (lib : Library) (p : Progress) :
    traceCallee lib opts trail f p = Trace.visiting (f.visit opts trail p)
      (if f.key opts ∈ p.expanded then { after := p }
      else traceBody lib opts f
        (fun file => traceCallee lib opts (trail ++ [f.location opts]) (f.sibling file)) p) := by
  rw [Analysis.traceCallee_eq, if_neg h.off_trail, if_neg (Nat.not_le.mpr h.within)]

/-! ## Every derivation is the trace -/

mutual

/-- Whatever ends a call is its trace. -/
theorem Expands.eq_traceCallee {trail : List Text} {f : TaskFile} {p : Progress} {t : Trace ExpandError}
    (h : Expands lib opts trail f p t) : t = traceCallee lib opts trail f p := by
  match h with
  | .cycle hcycle => rw [traceCallee_eq, if_pos hcycle]
  | .tooDeep hoff hdeep => rw [traceCallee_eq, if_neg hoff, if_pos hdeep]
  | .known hadmits hknown => rw [hadmits.traceCallee_eq, if_pos hknown]
  | .unloaded hadmits hnew hload => rw [hadmits.traceCallee_eq, if_neg hnew, traceBody, hload]
  | .worked hadmits hnew hload hworks =>
    have hwork := hworks.eq_traceWork
    rw [hadmits.traceCallee_eq, if_neg hnew, traceBody_loaded hload, hwork]
    rfl

/-- Whatever ends a work list is its trace. -/
theorem Works.eq_traceWork {trail : List Text} {f : TaskFile} {node : Node} {index : ℕ} {tasks : List Task}
    {p : Progress} {t : Trace ExpandError} (h : Works lib opts trail f node index tasks p t) :
    t = traceWork opts f node (fun file => traceCallee lib opts trail (f.sibling file)) index tasks p := by
  match h with
  | .done =>
    rw [traceWork, Task.scanFrom]
    rfl
  | .opened hb hblock hrest =>
    rw [traceWork_block hb, hblock]
    exact hrest.eq_traceWork
  | .closed hb hblock => rw [traceWork_block hb, hblock]
  | .passed hb hincluded hrest =>
    rw [traceWork_plain hb, hincluded]
    exact hrest.eq_traceWork
  | .faulty hb hincluded => rw [traceWork_plain hb, hincluded]
  | .unresolved hb hincluded hresolve =>
    rw [traceWork_plain hb, hincluded]
    dsimp only
    rw [traceInclude, hresolve, Trace.andThen_failed rfl]
  | .failed hb hincluded hresolve hcall hfailure =>
    rw [traceWork_plain hb, hincluded]
    dsimp only
    rw [traceInclude_resolved hresolve, ← hcall.eq_traceCallee, Trace.andThen_failed hfailure,
      Trace.andThen_failed hfailure]
  | .called hb hincluded hresolve hcall hsuccess hrest =>
    rw [traceWork_plain hb, hincluded]
    dsimp only
    rw [traceInclude_resolved hresolve, ← hcall.eq_traceCallee, Trace.andThen_assoc, Trace.andThen_done hsuccess,
      hrest.eq_traceWork]
    rfl

end

/-! ## Every trace is a derivation -/

/-- When the calls below a trail have derivations, every work list has one. -/
theorem works_traceWork (hchild : ∀ file p, Expands lib opts trail (f.sibling file) p (child file p)) (index : ℕ)
    (tasks : List Task) (p : Progress) :
    Works lib opts trail f node index tasks p (traceWork opts f node child index tasks p) := by
  -- The scan is made of the turns of the work list, so its cases are those of the rules.
  fun_induction Task.scanFrom opts.includeKeys index tasks generalizing p with
  | case1 index =>
    rw [traceWork, Task.scanFrom]
    exact .done
  | case2 index task rest hb fault hblock =>
    rw [traceWork_block hb, hblock]
    exact .closed hb hblock
  | case3 index task rest hb nested hblock _ ih =>
    rw [traceWork_block hb, hblock]
    exact .opened hb hblock (ih p)
  | case4 index task rest hb _ fault hincluded =>
    have hb : task.isBlock = false := by simpa using hb
    rw [traceWork_plain hb, hincluded]
    exact .faulty hb hincluded
  | case5 index task rest hb _ hincluded ih =>
    have hb : task.isBlock = false := by simpa using hb
    rw [traceWork_plain hb, hincluded]
    exact .passed hb hincluded (ih p)
  | case6 index task rest hb _ target hincluded ih =>
    have hb : task.isBlock = false := by simpa using hb
    rw [traceWork_plain hb, hincluded]
    dsimp only
    cases hresolve : f.scope.resolve target with
    | error e =>
      rw [traceInclude, hresolve, Trace.andThen_failed rfl]
      exact .unresolved hb hincluded hresolve
    | ok file =>
      rw [traceInclude_resolved hresolve, Trace.andThen_assoc]
      cases hfailure : (child file p).failure with
      | some e =>
        rw [Trace.andThen_failed hfailure]
        exact .failed hb hincluded hresolve (hchild file p) hfailure
      | none =>
        rw [Trace.andThen_done hfailure]
        exact .called hb hincluded hresolve (hchild file p) hfailure (ih _)

/-- The trace of a call is a derivation: below it, the trail comes nearer to the limit. -/
theorem expands_traceCallee (lib : Library) (opts : Options) (trail : List Text) (f : TaskFile) (p : Progress) :
    Expands lib opts trail f p (traceCallee lib opts trail f p) := by
  by_cases hcycle : f.location opts ∈ trail
  · rw [traceCallee_eq, if_pos hcycle]
    exact .cycle hcycle
  by_cases hdeep : opts.maxDepth ≤ trail.length
  · rw [traceCallee_eq, if_neg hcycle, if_pos hdeep]
    exact .tooDeep hcycle hdeep
  have hadmits : Admits opts trail f := ⟨hcycle, Nat.not_le.mp hdeep⟩
  rw [hadmits.traceCallee_eq]
  split_ifs with hknown
  · exact .known hadmits hknown
  cases hload : lib.tasks (f.location opts) with
  | error e =>
    rw [traceBody, hload]
    exact .unloaded hadmits hknown hload
  | ok tasks =>
    rw [traceBody_loaded hload]
    have hchild : ∀ file q, Expands lib opts (trail ++ [f.location opts]) (f.sibling file) q
        (traceCallee lib opts (trail ++ [f.location opts]) (f.sibling file) q) :=
      fun file => expands_traceCallee lib opts (trail ++ [f.location opts]) (f.sibling file)
    exact .worked hadmits hknown hload (works_traceWork hchild 0 tasks p)
termination_by opts.maxDepth - trail.length
decreasing_by
  rw [List.length_append, List.length_singleton]
  omega

/-- A call ends in exactly one way. -/
theorem expands_iff : Expands lib opts trail f p t ↔ t = traceCallee lib opts trail f p := by
  constructor
  · exact Expands.eq_traceCallee
  · rintro rfl
    exact expands_traceCallee lib opts trail f p

/-- The call for the main task file of a role, with an empty trail, ends, in one way only, and that is how the
bounded recursion ends. Every call below stands at the end of a path of includes from the main task file, and the
trail of a call that passes the checks, its location included, repeats nothing and is not longer than the limit. -/
theorem expand_terminates (lib : Library) (opts : Options) (role : Text) (scope : Scope) (s : State) :
    ∃ t, (∀ u, Expands lib opts [] ⟨role, scope, mainFile⟩ s.progress u ↔ u = t) ∧
      Mirrors (expand lib opts role (tasksDir opts role) scope opts.maxDepth [] mainFile) s t
        (s.graph.stored (.task role mainFile)) ∧
      ∀ v ∈ t.visits, v.OnPath lib opts role scope (mainLocation opts role) ∧
        (Admits opts v.trail v.toTaskFile →
          (v.trail ++ [v.location opts]).Nodup ∧ (v.trail ++ [v.location opts]).length ≤ opts.maxDepth) := by
  refine ⟨_, fun u => expands_iff, mirrors_expand lib opts role scope opts.maxDepth [] mainFile s, fun v hv => ?_⟩
  have hpath := mainFile_visits_onPath hv
  refine ⟨hpath, fun hadmits => ⟨?_, ?_⟩⟩
  · rw [← List.concat_eq_append]
    exact hpath.nodup.concat hadmits.off_trail
  · rw [List.length_append]
    exact hadmits.within

end Analysis

end RoleGraph
