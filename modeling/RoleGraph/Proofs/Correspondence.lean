import Mathlib.Data.List.Forall2
import Mathlib.Logic.Equiv.Basic
import RoleGraph.Proofs.Mirror

/-!
# Corresponding runs

Two runs of a role, over two libraries and under two scopes, correspond when every location reads the
same in both: the scans find the same fault and includes that resolve alike. A task file then has the
same location, the same node and the same place on the trail in both runs, and only its entry in the
memo is made under another fingerprint. Exchanging the two fingerprints is injective, so the memo of
one run has an entry exactly when the renamed memo of the other has it, and every decision of the one
run is that of the other.
-/

namespace RoleGraph

/-- Two outcomes are one failure, or results in a relation. -/
inductive SameOutcome {ε α β : Type} (R : α → β → Prop) : Except ε α → Except ε β → Prop where
  | error (e : ε) : SameOutcome R (.error e) (.error e)
  | ok {a : α} {b : β} (h : R a b) : SameOutcome R (.ok a) (.ok b)

namespace SameOutcome

variable {ε α β α' β' : Type} {R : α → β → Prop} {S : α' → β' → Prop}

/-- Results that are related to themselves make an outcome the same as itself. -/
theorem refl {R : α → α → Prop} (hR : ∀ a, R a a) (x : Except ε α) : SameOutcome R x x := by
  cases x with
  | error e => exact .error e
  | ok a => exact .ok (hR a)

/-- Same outcomes stay so when they are used alike. -/
theorem bind {x : Except ε α} {y : Except ε β} {f : α → Except ε α'} {g : β → Except ε β'}
    (h : SameOutcome R x y) (hfg : ∀ a b, R a b → SameOutcome S (f a) (g b)) :
    SameOutcome S (x.bind f) (y.bind g) := by
  cases h with
  | error e => exact .error e
  | ok h => exact hfg _ _ h

end SameOutcome

namespace Analysis

variable {ε ε' α β : Type} {lib lib' : Library} {opts : Options} {scope scope' : Scope} {role : Text}
  {w : ResolveError → ResolveError}

/-- The same failure, where an include cannot be resolved for another reason. -/
def ExpandError.mapUnresolved (w : ResolveError → ResolveError) : ExpandError → ExpandError
  | .unresolved role location cause => .unresolved role location (w cause)
  | e => e

/-- The same failure of a role, where an include cannot be resolved for another reason. -/
def RoleError.mapUnresolved (w : ResolveError → ResolveError) : RoleError → RoleError
  | .expand cause => .expand (cause.mapUnresolved w)
  | e => e

/-- Nothing changes when every reason stays. -/
theorem RoleError.mapUnresolved_id (e : RoleError) : e.mapUnresolved id = e := by
  cases e with
  | unchecked role dir cause => rfl
  | noTasks role dir => rfl
  | expand cause =>
    cases cause with
    | unresolved role location cause => rfl
    | cycle role chain => rfl
    | tooDeep role location limit => rfl
    | load role cause => rfl
    | task role location index fault => rfl
    | edge cause => rfl

/-- Two lists of tasks read alike. Their scans end alike, and include by include the second run resolves
what the first one does, or fails for the reason that `w` gives. -/
structure SameScan (keys : List Text) (scope scope' : Scope) (w : ResolveError → ResolveError)
    (tasks tasks' : List Task) : Prop where
  fault : (Task.scan keys tasks').fault = (Task.scan keys tasks).fault
  targets : List.Forall₂ (fun t t' => scope'.resolve t' = (scope.resolve t).mapError w)
    (Task.scan keys tasks).targets (Task.scan keys tasks').targets

/-- Every location is there for both runs or for none, and reads the same in both. -/
structure SameFiles (keys : List Text) (scope scope' : Scope) (w : ResolveError → ResolveError)
    (lib lib' : Library) : Prop where
  holds : ∀ location, lib'.holds location = lib.holds location
  tasks : ∀ location, SameOutcome (SameScan keys scope scope' w) (lib.tasks location) (lib'.tasks location)

/-- The fingerprints of two scopes exchanged. -/
def exchange (scope scope' : Scope) : Equiv.Perm UInt64 := Equiv.swap scope.fingerprint scope'.fingerprint

/-- A scope is exchanged with itself by doing nothing. -/
theorem exchange_self (scope : Scope) : exchange scope scope = Equiv.refl UInt64 := Equiv.swap_self _

/-- An entry of the memo under another fingerprint. -/
def renameEntry (r : Equiv.Perm UInt64) (key : Text × UInt64) : Text × UInt64 := (key.1, r key.2)

/-- The same progress with every entry of the memo renamed. -/
def Progress.renamed (r : Equiv.Perm UInt64) (p : Progress) : Progress :=
  { p with expanded := p.expanded.map (renameEntry r) }

/-- Nothing changes when every fingerprint stays. -/
theorem Progress.renamed_refl (p : Progress) : p.renamed (Equiv.refl UInt64) = p := by
  have hentry : renameEntry (Equiv.refl UInt64) = id := rfl
  rw [renamed, hentry, List.map_id]

/-- The entry of a task file is renamed to its entry in the other run. -/
theorem TaskFile.renameEntry_key (opts : Options) (scope scope' : Scope) (role file : Text) :
    renameEntry (exchange scope scope') (TaskFile.key opts ⟨role, scope, file⟩) =
      TaskFile.key opts ⟨role, scope', file⟩ := by
  simp only [renameEntry, key, exchange, Equiv.swap_apply_left]
  rfl

/-- A task file has an entry in the one memo exactly when it has one in the renamed memo. -/
theorem TaskFile.mem_renamed {file : Text} {p : Progress} :
    TaskFile.key opts ⟨role, scope', file⟩ ∈ (p.renamed (exchange scope scope')).expanded ↔
      TaskFile.key opts ⟨role, scope, file⟩ ∈ p.expanded := by
  have hinj : Function.Injective (renameEntry (exchange scope scope')) := by
    rintro ⟨location, fingerprint⟩ ⟨location', fingerprint'⟩ h
    obtain ⟨hlocation, hfingerprint⟩ := Prod.mk.inj h
    exact Prod.ext hlocation ((exchange scope scope').injective hfingerprint)
  rw [Progress.renamed, ← TaskFile.renameEntry_key opts scope scope', List.mem_map_of_injective hinj]

/-- A new entry is renamed to the new entry of the other run. -/
theorem Progress.renamed_mark (opts : Options) (scope scope' : Scope) (role file : Text) (p : Progress) :
    (p.mark (TaskFile.key opts ⟨role, scope, file⟩)).renamed (exchange scope scope') =
      (p.renamed (exchange scope scope')).mark (TaskFile.key opts ⟨role, scope', file⟩) := by
  rw [← TaskFile.renameEntry_key opts scope scope' role file]
  rfl

namespace Trace

/-- A trace corresponds to another one: its failure is the translated one, and it finds the same graph
and the renamed memo. -/
structure Corresponds (f : ε → ε) (r : Equiv.Perm UInt64) (t t' : Trace ε) : Prop where
  failure : t'.failure = t.failure.map f
  after : t'.after = t.after.renamed r

variable {f : ε → ε} {r : Equiv.Perm UInt64} {t t' : Trace ε}

/-- Corresponding traces go on with corresponding ones. -/
theorem Corresponds.andThen {next next' : Progress → Trace ε} (h : Corresponds f r t t')
    (hnext : ∀ p, Corresponds f r (next p) (next' (p.renamed r))) :
    Corresponds f r (t.andThen next) (t'.andThen next') := by
  have hfailure := h.failure
  cases hfail : t.failure with
  | some e =>
    rw [hfail] at hfailure
    rw [andThen_failed hfail, andThen_failed hfailure]
    exact h
  | none =>
    rw [hfail] at hfailure
    rw [andThen_done hfail, andThen_done hfailure, h.after]
    exact ⟨(hnext t.after).failure, (hnext t.after).after⟩

/-- Steps that correspond item by item have corresponding traces in turn. -/
theorem Corresponds.each {step : α → Progress → Trace ε} {step' : β → Progress → Trace ε} {items : List α}
    {items' : List β}
    (h : List.Forall₂ (fun a b => ∀ p, Corresponds f r (step a p) (step' b (p.renamed r))) items items')
    (p : Progress) : Corresponds f r (Trace.each step items p) (Trace.each step' items' (p.renamed r)) := by
  induction h generalizing p with
  | nil => exact ⟨rfl, rfl⟩
  | cons hstep _ ih => exact (hstep p).andThen ih

/-- A correspondence is kept when both failures get the same other meaning. -/
theorem Corresponds.mapFailure {f' : ε' → ε'} {wrap : ε → ε'} (h : Corresponds f r t t')
    (hwrap : ∀ e, wrap (f e) = f' (wrap e)) : Corresponds f' r (t.mapFailure wrap) (t'.mapFailure wrap) := by
  refine ⟨?_, h.after⟩
  have hcomp : wrap ∘ f = f' ∘ wrap := funext hwrap
  rw [Trace.mapFailure, Trace.mapFailure, h.failure, Option.map_map, Option.map_map, hcomp]

/-- Visits do not matter to the correspondence. -/
theorem Corresponds.visiting {f : ExpandError → ExpandError} {t t' : Trace ExpandError}
    (h : Corresponds f r t t') (v v' : Visit) : Corresponds f r (t.visiting v) (t'.visiting v') :=
  ⟨h.failure, h.after⟩

end Trace

/-- Includes that resolve alike correspond when the files they lead to do. -/
theorem corresponds_traceInclude {location target target' : Text} {source : Node} {r : Equiv.Perm UInt64}
    {child child' : Text → Progress → Trace ExpandError}
    (htarget : scope'.resolve target' = (scope.resolve target).mapError w)
    (hchild : ∀ file p, Trace.Corresponds (ExpandError.mapUnresolved w) r (child file p)
      (child' file (p.renamed r))) (p : Progress) :
    Trace.Corresponds (ExpandError.mapUnresolved w) r (traceInclude role location scope source child target p)
      (traceInclude role location scope' source child' target' (p.renamed r)) := by
  cases hresolve : scope.resolve target with
  | error e =>
    rw [hresolve] at htarget
    simp only [traceInclude, hresolve, htarget]
    exact ⟨rfl, rfl⟩
  | ok file =>
    rw [hresolve] at htarget
    rw [traceInclude_resolved hresolve, traceInclude_resolved htarget]
    exact (hchild file p).andThen fun q => ⟨rfl, rfl⟩

/-- Following a task file over the same files corresponds, at any depth. -/
theorem corresponds_traceFile (h : SameFiles opts.includeKeys scope scope' w lib lib') (room : ℕ)
    (trail : List Text) (file : Text) (p : Progress) :
    Trace.Corresponds (ExpandError.mapUnresolved w) (exchange scope scope')
      (traceFile lib opts role scope room trail file p)
      (traceFile lib' opts role scope' room trail file (p.renamed (exchange scope scope'))) := by
  -- The location is read off the role and the file, so both runs are at one place.
  have hplace : TaskFile.location opts ⟨role, scope', file⟩ = TaskFile.location opts ⟨role, scope, file⟩ := rfl
  induction room generalizing trail file p with
  | zero =>
    rw [traceFile, traceFile]
    apply Trace.Corresponds.visiting
    rw [hplace]
    split_ifs
    · exact ⟨rfl, rfl⟩
    · exact ⟨rfl, rfl⟩
  | succ room ih =>
    rw [traceFile, traceFile]
    apply Trace.Corresponds.visiting
    rw [hplace]
    by_cases hcycle : TaskFile.location opts ⟨role, scope, file⟩ ∈ trail
    · rw [if_pos hcycle, if_pos hcycle]
      exact ⟨rfl, rfl⟩
    rw [if_neg hcycle, if_neg hcycle]
    by_cases hknown : TaskFile.key opts ⟨role, scope, file⟩ ∈ p.expanded
    · rw [if_pos hknown, if_pos (TaskFile.mem_renamed.mpr hknown)]
      exact ⟨rfl, rfl⟩
    rw [if_neg hknown, if_neg (mt TaskFile.mem_renamed.mp hknown)]
    have hread := h.tasks (TaskFile.location opts ⟨role, scope, file⟩)
    generalize hx : lib.tasks _ = x at hread
    generalize hy : lib'.tasks _ = y at hread
    cases hread with
    | error e =>
      simp only [traceBody, hplace, hx, hy]
      exact ⟨rfl, rfl⟩
    | ok hscan =>
      rw [traceBody_loaded hx, traceBody_loaded (by exact hy), hscan.fault]
      refine Trace.Corresponds.andThen (Trace.Corresponds.each (hscan.targets.imp fun t t' ht => ?_) p) fun q => ?_
      · exact corresponds_traceInclude ht fun next q => ih _ next q rfl
      · cases (Task.scan opts.includeKeys _).fault with
        | some fault => exact ⟨rfl, rfl⟩
        | none => exact ⟨rfl, (Progress.renamed_mark opts scope scope' role file q).symm⟩

/-- Following a role over the same files corresponds, whatever node runs it. -/
theorem corresponds_traceRoleFrom (h : SameFiles opts.includeKeys scope scope' w lib lib') (caller : Node)
    (p : Progress) :
    Trace.Corresponds (RoleError.mapUnresolved w) (exchange scope scope')
      (traceRoleFrom lib opts caller scope role p)
      (traceRoleFrom lib' opts caller scope' role (p.renamed (exchange scope scope'))) := by
  unfold traceRoleFrom
  rw [h.holds]
  split
  · exact ⟨rfl, rfl⟩
  · exact ⟨rfl, rfl⟩
  · have hfile : Trace.Corresponds (RoleError.mapUnresolved w) (exchange scope scope')
        ((traceFile lib opts role scope opts.maxDepth [] mainFile p).mapFailure .expand)
        ((traceFile lib' opts role scope' opts.maxDepth [] mainFile (p.renamed (exchange scope scope'))).mapFailure
          .expand) := (corresponds_traceFile h opts.maxDepth [] mainFile p).mapFailure fun _ => rfl
    refine hfile.andThen fun q => ?_
    -- A call looks at the graph alone, and both runs have the same one.
    simp only [traceCall, Progress.renamed]
    split
    · exact ⟨rfl, rfl⟩
    · exact ⟨rfl, rfl⟩

/-- Two runs of a role over the same files end alike: with the translated failure, the same graph and
the renamed memo. -/
theorem followRole_corresponds (h : SameFiles opts.includeKeys scope scope' w lib lib') (caller : Node)
    (role : Text) {s s' : State} (hs : s'.progress = s.progress.renamed (exchange scope scope')) :
    ((followRole lib' opts caller scope' role).run s').1 =
        ((followRole lib opts caller scope role).run s).1.mapError (RoleError.mapUnresolved w) ∧
      ((followRole lib' opts caller scope' role).run s').2.progress =
        ((followRole lib opts caller scope role).run s).2.progress.renamed (exchange scope scope') := by
  have hfirst := mirrors_followRole_from lib opts caller scope role s
  have hsecond := mirrors_followRole_from lib' opts caller scope' role s'
  have htraces : Trace.Corresponds _ _ (traceRoleFrom lib opts caller scope role s.progress) _ :=
    corresponds_traceRoleFrom h caller s.progress
  rw [← hs] at htraces
  constructor
  · rw [hsecond.result, hfirst.result, htraces.failure]
    cases (traceRoleFrom lib opts caller scope role s.progress).failure with
    | none => rfl
    | some e => rfl
  · rw [hsecond.progress, hfirst.progress, htraces.after]

end Analysis

end RoleGraph
