import RoleGraph.Analysis.Basic
import RoleGraph.Proofs.GraphGrowth

/-!
# Traces of an analysis

A trace is an analysis without its log: how it ends, what it has found, and every visit it made to a
task file, in order. Traces are plain functions of what was found before, so the graph and the memo
of a run never depend on the log. Each step of an analysis mirrors its trace: it fails with the same
failure and leaves the same graph and the same memo behind.
-/

namespace RoleGraph

namespace Analysis

/-- A task file as a role refers to it under the variables of a play. -/
structure TaskFile where
  role : Text
  scope : Scope
  file : Text

namespace TaskFile

/-- Where the file is. -/
def location (opts : Options) (f : TaskFile) : Text := taskLocation (tasksDir opts f.role) f.file

/-- The identifier of the node of the file. -/
def id (f : TaskFile) : Text := Node.taskId f.role f.file

/-- The entry that the memo has for the file. -/
def key (opts : Options) (f : TaskFile) : Text × UInt64 := (f.location opts, f.scope.fingerprint)

end TaskFile

/-- A visit to a task file: the chain of files on the way to it, and whether the memo had it then. -/
structure Visit extends TaskFile where
  trail : List Text
  known : Bool

/-- What an analysis has found so far, the log aside. -/
structure Progress where
  graph : Graph := {}
  expanded : List (Text × UInt64) := []

/-- The progress of a state. -/
def State.progress (s : State) : Progress := ⟨s.graph, s.expanded⟩

/-- Add a call to the graph. -/
def Progress.link (p : Progress) (source target : Node) : Progress :=
  { p with graph := p.graph.link source target }

/-- Add an entry to the memo. -/
def Progress.mark (p : Progress) (key : Text × UInt64) : Progress :=
  { p with expanded := key :: p.expanded }

/-- How a step ends: its failure, if any, what is found then, and the visits it made. -/
structure Trace (ε : Type) where
  failure : Option ε := none
  after : Progress
  visits : List Visit := []

namespace Trace

variable {ε ε' : Type}

/-- Go on with another trace unless the first one failed. -/
def andThen (t : Trace ε) (next : Progress → Trace ε) : Trace ε :=
  match t.failure with
  | some _ => t
  | none => { next t.after with visits := t.visits ++ (next t.after).visits }

/-- Give a failure another meaning. -/
def mapFailure (wrap : ε → ε') (t : Trace ε) : Trace ε' :=
  { failure := t.failure.map wrap, after := t.after, visits := t.visits }

/-- Trace steps one after the other, up to the first failure. -/
def each {β : Type} (step : β → Progress → Trace ε) : List β → Progress → Trace ε
  | [], p => { after := p }
  | b :: rest, p => (step b p).andThen (each step rest)

/-- Nothing follows a failure. -/
theorem andThen_failed {t : Trace ε} {e : ε} (h : t.failure = some e) (next : Progress → Trace ε) :
    t.andThen next = t := by
  simp only [andThen, h]

/-- After a success the visits of both parts are kept. -/
theorem andThen_done {t : Trace ε} (h : t.failure = none) (next : Progress → Trace ε) :
    t.andThen next = { next t.after with visits := t.visits ++ (next t.after).visits } := by
  simp only [andThen, h]

/-- A trace without a failure and without visits is passed over. -/
@[simp] theorem andThen_still (p : Progress) (next : Progress → Trace ε) :
    ({ after := p } : Trace ε).andThen next = next p := rfl

/-- Sequencing is associative. -/
theorem andThen_assoc (t : Trace ε) (f g : Progress → Trace ε) :
    (t.andThen f).andThen g = t.andThen fun p => (f p).andThen g := by
  cases h : t.failure with
  | some e => rw [andThen_failed h, andThen_failed h, andThen_failed h]
  | none =>
    rw [andThen_done h, andThen_done h]
    cases hf : (f t.after).failure <;> simp [andThen, hf]

/-- Two parts of a list are traced one after the other. -/
theorem each_append {β : Type} (step : β → Progress → Trace ε) (xs ys : List β) (p : Progress) :
    each step (xs ++ ys) p = (each step xs p).andThen (each step ys) := by
  induction xs generalizing p with
  | nil => rfl
  | cons x xs ih =>
    simp only [List.cons_append, each, andThen_assoc]
    congr 1
    funext q
    exact ih q

/-- Relabelled items are traced by their labels. -/
theorem each_map {β γ : Type} (step : γ → Progress → Trace ε) (f : β → γ) (items : List β)
    (p : Progress) : each step (items.map f) p = each (fun b => step (f b)) items p := by
  induction items generalizing p with
  | nil => rfl
  | cons b rest ih =>
    simp only [List.map_cons, each]
    congr 1
    funext q
    exact ih q

/-- Two parts succeed together when each one does. -/
theorem andThen_failure_eq_none {t : Trace ε} {next : Progress → Trace ε} :
    (t.andThen next).failure = none ↔ t.failure = none ∧ (next t.after).failure = none := by
  cases h : t.failure with
  | some e => simp [andThen_failed h, h]
  | none => simp [andThen_done h]

/-- A visit of two parts is a visit of one of them. -/
theorem mem_visits_andThen {t : Trace ε} {next : Progress → Trace ε} {v : Visit}
    (h : v ∈ (t.andThen next).visits) : v ∈ t.visits ∨ v ∈ (next t.after).visits := by
  cases hfail : t.failure with
  | some e =>
    rw [andThen_failed hfail] at h
    exact Or.inl h
  | none =>
    rw [andThen_done hfail] at h
    exact List.mem_append.mp h

/-- The first part's visits are kept. -/
theorem visits_subset_andThen (t : Trace ε) (next : Progress → Trace ε) :
    t.visits ⊆ (t.andThen next).visits := by
  cases hfail : t.failure with
  | some e => rw [andThen_failed hfail]; exact List.Subset.refl _
  | none => rw [andThen_done hfail]; exact List.subset_append_left _ _

/-- A failure of two parts is a failure of one of them, at the end and among the visits of both. -/
theorem andThen_failure_eq_some {t : Trace ε} {next : Progress → Trace ε} {e : ε}
    (h : (t.andThen next).failure = some e) :
    t.failure = some e ∨ ((next t.after).failure = some e ∧
      (next t.after).visits ⊆ (t.andThen next).visits) := by
  cases hfail : t.failure with
  | some e' =>
    rw [andThen_failed hfail, hfail] at h
    exact Or.inl h
  | none =>
    rw [andThen_done hfail] at h ⊢
    exact Or.inr ⟨h, List.subset_append_right _ _⟩

/-- A visit of steps in turn is a visit of one of them. -/
theorem mem_visits_each {β : Type} {step : β → Progress → Trace ε} {items : List β} {p : Progress}
    {v : Visit} (h : v ∈ (each step items p).visits) : ∃ b ∈ items, ∃ q, v ∈ (step b q).visits := by
  induction items generalizing p with
  | nil => simp [each] at h
  | cons b rest ih =>
    rcases mem_visits_andThen h with h | h
    · exact ⟨b, List.mem_cons_self, p, h⟩
    · obtain ⟨c, hc, q, hq⟩ := ih h
      exact ⟨c, List.mem_cons_of_mem b hc, q, hq⟩

/-- A failure of steps in turn is a failure of one of them, among the visits of all. -/
theorem each_failure_eq_some {β : Type} {step : β → Progress → Trace ε} {items : List β}
    {p : Progress} {e : ε} (h : (each step items p).failure = some e) :
    ∃ b ∈ items, ∃ q, (step b q).failure = some e ∧
      (step b q).visits ⊆ (each step items p).visits := by
  induction items generalizing p with
  | nil => simp [each] at h
  | cons b rest ih =>
    rcases andThen_failure_eq_some h with h | ⟨h, hvisits⟩
    · exact ⟨b, List.mem_cons_self, p, h, visits_subset_andThen _ _⟩
    · obtain ⟨c, hc, q, hq, hsub⟩ := ih h
      exact ⟨c, List.mem_cons_of_mem b hc, q, hq, List.Subset.trans hsub hvisits⟩

/-- What holds after the first part and is kept by the second holds after both; the second part may
count on its visits being among given ones. -/
theorem andThen_preserves {P : Progress → Prop} {V : List Visit} {t : Trace ε}
    {next : Progress → Trace ε} (hV : (t.andThen next).visits ⊆ V) (ht : P t.after)
    (hnext : ∀ p, P p → (next p).visits ⊆ V → P (next p).after) : P (t.andThen next).after := by
  cases h : t.failure with
  | some e => rwa [andThen_failed h]
  | none =>
    rw [andThen_done h] at hV ⊢
    exact hnext t.after ht (List.append_subset.mp hV).2

/-- What every step keeps is kept by all of them in turn; each step may count on its visits being
among given ones. -/
theorem each_preserves {β : Type} {P : Progress → Prop} {V : List Visit}
    {step : β → Progress → Trace ε} {items : List β} {p : Progress}
    (hV : (each step items p).visits ⊆ V) (hp : P p)
    (hstep : ∀ b ∈ items, ∀ q, P q → (step b q).visits ⊆ V → P (step b q).after) :
    P (each step items p).after := by
  induction items generalizing p with
  | nil => exact hp
  | cons b rest ih =>
    have hVb := List.Subset.trans (visits_subset_andThen (step b p) (each step rest)) hV
    apply andThen_preserves hV (hstep b List.mem_cons_self p hp hVb)
    intro q hq hVq
    exact ih hVq hq fun c hc => hstep c (List.mem_cons_of_mem b hc)

end Trace

/-- Trace one include of the file at `location`, whose node is `source`. -/
def traceInclude (role location : Text) (scope : Scope) (source : Node)
    (child : Text → Progress → Trace ExpandError) (target : Text) (p : Progress) : Trace ExpandError :=
  match scope.resolve target with
  | .error e => { failure := some (.unresolved role location e), after := p }
  | .ok file =>
    (child file p).andThen fun q => { after := q.link source (p.graph.stored (.task role file)) }

/-- Trace the end of a task file after its includes. -/
def traceEnd (f : TaskFile) (opts : Options) (fault : Option Task.ScanFault) (p : Progress) :
    Trace ExpandError :=
  match fault with
  | some s => { failure := some (.task f.role (f.location opts) s.index s.fault), after := p }
  | none => { after := p.mark (f.key opts) }

/-- Trace what is found in a task file that is not in the memo. -/
def traceBody (lib : Library) (opts : Options) (f : TaskFile)
    (child : Text → Progress → Trace ExpandError) (p : Progress) : Trace ExpandError :=
  match lib.tasks (f.location opts) with
  | .error e => { failure := some (.load f.role e), after := p }
  | .ok tasks =>
    (Trace.each
      (traceInclude f.role (f.location opts) f.scope (p.graph.stored (.task f.role f.file)) child)
      (Task.scan opts.includeKeys tasks).targets p).andThen
        (traceEnd f opts (Task.scan opts.includeKeys tasks).fault)

/-- An include that resolves is the file it resolves to, followed by the call. -/
theorem traceInclude_resolved {scope : Scope} {target file : Text}
    (h : scope.resolve target = .ok file) (role location : Text) (source : Node)
    (child : Text → Progress → Trace ExpandError) (p : Progress) :
    traceInclude role location scope source child target p =
      (child file p).andThen fun q => { after := q.link source (p.graph.stored (.task role file)) } := by
  simp only [traceInclude, h]

/-- What links keep is kept by an include when the included file keeps it. -/
theorem traceInclude_preserves {P : Progress → Prop} {V : List Visit} {role location : Text}
    {scope : Scope} {source : Node} {child : Text → Progress → Trace ExpandError} {target : Text}
    {p : Progress} (hlink : ∀ p s t, P p → P (p.link s t))
    (hV : (traceInclude role location scope source child target p).visits ⊆ V) (hp : P p)
    (hchild : ∀ file, (child file p).visits ⊆ V → P (child file p).after) :
    P (traceInclude role location scope source child target p).after := by
  unfold traceInclude at hV ⊢
  split
  · exact hp
  · rename_i file hfile
    simp only [hfile] at hV
    have hVchild := List.Subset.trans (Trace.visits_subset_andThen _ _) hV
    exact Trace.andThen_preserves hV (hchild file hVchild) fun q hq _ => hlink q _ _ hq

/-- A task file that loads is its includes in turn, followed by its end. -/
theorem traceBody_loaded {lib : Library} {opts : Options} {f : TaskFile} {tasks : List Task}
    (h : lib.tasks (f.location opts) = .ok tasks) (child : Text → Progress → Trace ExpandError)
    (p : Progress) :
    traceBody lib opts f child p =
      (Trace.each
        (traceInclude f.role (f.location opts) f.scope (p.graph.stored (.task f.role f.file)) child)
        (Task.scan opts.includeKeys tasks).targets p).andThen
          (traceEnd f opts (Task.scan opts.includeKeys tasks).fault) := by
  simp only [traceBody, h]

/-- Note the visit to a task file before everything that comes of it. -/
def Trace.visiting (v : Visit) (t : Trace ExpandError) : Trace ExpandError :=
  { t with visits := v :: t.visits }

/-- The visit to a task file at the end of a trail. -/
def TaskFile.visit (f : TaskFile) (opts : Options) (trail : List Text) (p : Progress) : Visit :=
  { toTaskFile := f, trail := trail, known := decide (f.key opts ∈ p.expanded) }

/-- Trace a task file. -/
def traceFile (lib : Library) (opts : Options) (role : Text) (scope : Scope) :
    (room : ℕ) → (trail : List Text) → (file : Text) → Progress → Trace ExpandError
  | 0, trail, file, p =>
    let f : TaskFile := ⟨role, scope, file⟩
    Trace.visiting (f.visit opts trail p) <|
      if f.location opts ∈ trail then
        { failure := some (.cycle role (trail ++ [f.location opts])), after := p }
      else { failure := some (.tooDeep role (f.location opts) opts.maxDepth), after := p }
  | room + 1, trail, file, p =>
    let f : TaskFile := ⟨role, scope, file⟩
    Trace.visiting (f.visit opts trail p) <|
      if f.location opts ∈ trail then
        { failure := some (.cycle role (trail ++ [f.location opts])), after := p }
      else if f.key opts ∈ p.expanded then { after := p }
      else traceBody lib opts f (traceFile lib opts role scope room (trail ++ [f.location opts])) p

/-- Trace a role that the node `caller` runs. -/
def traceRole (lib : Library) (opts : Options) (caller : Node) (scope : Scope) (role : Text)
    (p : Progress) : Trace RoleError :=
  match lib.holds (tasksDir opts role) with
  | .error e => { failure := some (.unchecked role (tasksDir opts role) e), after := p }
  | .ok false => { failure := some (.noTasks role (tasksDir opts role)), after := p }
  | .ok true =>
    ((traceFile lib opts role scope opts.maxDepth [] mainFile p).mapFailure .expand).andThen fun q =>
      { after := q.link caller (p.graph.stored (.task role mainFile)) }

/-- Trace a call from any node; the edge of a node that the graph does not know is refused. -/
def traceCall (caller target : Node) (p : Progress) : Trace RoleError :=
  match (p.graph.addNode target).addEdge (some caller) (some target) with
  | .ok g => { after := { p with graph := g } }
  | .error e => { failure := some (.expand (.edge e)), after := { p with graph := p.graph.addNode target } }

/-- Trace a role that any node runs. -/
def traceRoleFrom (lib : Library) (opts : Options) (caller : Node) (scope : Scope) (role : Text)
    (p : Progress) : Trace RoleError :=
  match lib.holds (tasksDir opts role) with
  | .error e => { failure := some (.unchecked role (tasksDir opts role) e), after := p }
  | .ok false => { failure := some (.noTasks role (tasksDir opts role)), after := p }
  | .ok true =>
    ((traceFile lib opts role scope opts.maxDepth [] mainFile p).mapFailure .expand).andThen
      (traceCall caller (p.graph.stored (.task role mainFile)))

/-- A role that a playbook runs: the name of the play, the role and the variables. -/
structure RoleRef where
  play : Text
  role : Text
  scope : Scope

/-- The roles that plays run, in order. -/
def roleRefs (opts : Options) (index : ℕ) (plays : List Play) : List RoleRef :=
  (plays.zipIdx index).flatMap fun (play, i) =>
    (rolesOf opts play).map fun role => ⟨play.displayName i, role, play.vars⟩

/-- The roles of the first play come before those of the others. -/
theorem roleRefs_cons (opts : Options) (index : ℕ) (play : Play) (rest : List Play) :
    roleRefs opts index (play :: rest) =
      (rolesOf opts play).map (fun role => ⟨play.displayName index, role, play.vars⟩) ++
        roleRefs opts (index + 1) rest := by
  simp [roleRefs]

/-- Trace one role that the playbook with node `root` runs. -/
def traceRef (lib : Library) (opts : Options) (root : Node) (ref : RoleRef) (p : Progress) :
    Trace PlaybookError :=
  (traceRole lib opts root ref.scope ref.role p).mapFailure (.play root.id ref.play)

/-- The progress once the root of a playbook is in the graph. -/
def Progress.root (p : Progress) (location : Text) : Progress :=
  { p with graph := p.graph.addNode (.playbook location) }

/-- Trace a playbook. -/
def tracePlaybook (lib : Library) (opts : Options) (location : Text) (p : Progress) :
    Trace PlaybookError :=
  match lib.plays location with
  | .error e => { failure := some (.load e), after := p }
  | .ok plays =>
    Trace.each (traceRef lib opts ((p.root location).graph.stored (.playbook location)))
      (roleRefs opts 0 plays) (p.root location)

/-- What links keep, and marks of files off the trail, is kept by following a task file. -/
theorem traceFile_preserves {P : Progress → Prop} (lib : Library) (opts : Options) (role : Text)
    (scope : Scope) (room : ℕ) (trail : List Text) (file : Text)
    (hlink : ∀ p s t, P p → P (p.link s t))
    (hmark : ∀ p file, TaskFile.location opts ⟨role, scope, file⟩ ∉ trail → P p →
      P (p.mark (TaskFile.key opts ⟨role, scope, file⟩)))
    {p : Progress} (hp : P p) : P (traceFile lib opts role scope room trail file p).after := by
  induction room generalizing trail file p with
  | zero =>
    rw [traceFile]
    dsimp only [Trace.visiting]
    split_ifs
    · exact hp
    · exact hp
  | succ room ih =>
    rw [traceFile]
    dsimp only [Trace.visiting]
    split_ifs with hcycle hknown
    · exact hp
    · exact hp
    · unfold traceBody
      split
      · exact hp
      · apply Trace.andThen_preserves (List.Subset.refl _)
        · apply Trace.each_preserves (List.Subset.refl _) hp
          intro target _ q hq _
          apply traceInclude_preserves hlink (List.Subset.refl _) hq
          intro next _
          -- A file off the longer trail of an include is off this one.
          refine ih (trail ++ [TaskFile.location opts ⟨role, scope, file⟩]) next ?_ hq
          intro r other hother
          exact hmark r other fun h => hother (List.mem_append_left _ h)
        · intro q hq _
          unfold traceEnd
          split
          · exact hq
          · exact hmark q file hcycle hq

/-- What links and marks keep is kept by following a role. -/
theorem traceRole_preserves {P : Progress → Prop} (lib : Library) (opts : Options) (caller : Node)
    (scope : Scope) (role : Text) (hlink : ∀ p s t, P p → P (p.link s t))
    (hmark : ∀ p key, P p → P (p.mark key)) {p : Progress} (hp : P p) :
    P (traceRole lib opts caller scope role p).after := by
  unfold traceRole
  split
  · exact hp
  · exact hp
  · apply Trace.andThen_preserves (List.Subset.refl _)
    · exact traceFile_preserves lib opts role scope _ _ _ hlink (fun q _ _ => hmark q _) hp
    · intro q hq _
      exact hlink _ _ _ hq

end Analysis

end RoleGraph
