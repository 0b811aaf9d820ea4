import RoleGraph.Proofs.DepthLimit

/-!
# Raising the limit on chains of includes

The limit is looked at in one place: at a file off its trail, when there is no room left, and then the
run fails because of it. Everywhere else a run with more room takes the same step as one with less. So
the two differ only when the one with less room fails because of the depth, and this holds of every
step that is put together from such steps. Nothing else about a run depends on the limit: result,
graph, memo and log are the same.
-/

namespace RoleGraph

namespace Analysis

variable {ε ε' α β : Type}

/-- A step that has more room does what the first one does, unless that one fails because of the depth. -/
def Step.Keeps (deep : ε → Prop) (step roomy : Step ε α) : Prop :=
  ∀ st, (∃ e, (step.run st).1 = .error e ∧ deep e) ∨ roomy.run st = step.run st

namespace Step.Keeps

variable {deep : ε → Prop} {step roomy : Step ε α}

/-- A step keeps to itself. -/
theorem refl (deep : ε → Prop) (step : Step ε α) : Keeps deep step step := fun _ => Or.inr rfl

/-- Steps that keep to others do so one after the other. -/
theorem bind {next next' : α → Step ε β} (h : Keeps deep step roomy)
    (hnext : ∀ a, Keeps deep (next a) (next' a)) : Keeps deep (step >>= next) (roomy >>= next') := by
  intro st
  rw [run_bind, run_bind]
  rcases h st with ⟨e, he, hdeep⟩ | hsame
  · refine Or.inl ⟨e, ?_, hdeep⟩
    generalize step.run st = r at he ⊢
    obtain ⟨result, st'⟩ := r
    obtain rfl : result = .error e := he
    rfl
  · rw [hsame]
    generalize step.run st = r
    obtain ⟨result, st'⟩ := r
    cases result with
    | error e => exact Or.inr rfl
    | ok a => exact hnext a st'

/-- The first of two steps does not depend on the room. -/
theorem after (step : Step ε α) {next next' : α → Step ε β} (hnext : ∀ a, Keeps deep (next a) (next' a)) :
    Keeps deep (step >>= next) (step >>= next') := (refl deep step).bind hnext

/-- The same holds of a first step that is made only sometimes. -/
theorem after_if (c : Prop) [Decidable c] (step : Step ε Unit) {next next' : Unit → Step ε β}
    (hnext : Keeps deep (next ()) (next' ())) :
    Keeps deep (if c then step >>= next else next ()) (if c then step >>= next' else next' ()) := by
  by_cases hc : c
  · rw [if_pos hc, if_pos hc]
    exact after step fun _ => hnext
  · rw [if_neg hc, if_neg hc]
    exact hnext

/-- A failure that means something else is still one because of the depth. -/
theorem wrapping {deep' : ε' → Prop} {wrap : ε → ε'} (h : Keeps deep step roomy)
    (hwrap : ∀ e, deep e → deep' (wrap e)) : Keeps deep' (wrapping wrap step) (wrapping wrap roomy) := by
  intro st
  rw [run_wrapping, run_wrapping]
  rcases h st with ⟨e, he, hdeep⟩ | hsame
  · refine Or.inl ⟨wrap e, ?_, hwrap e hdeep⟩
    generalize step.run st = r at he ⊢
    obtain ⟨result, st'⟩ := r
    obtain rfl : result = .error e := he
    rfl
  · exact Or.inr (by rw [hsame])

/-- Steps that keep to others one by one do so in turn. -/
theorem forM {step roomy : β → Step ε Unit} (h : ∀ b, Keeps deep (step b) (roomy b)) (items : List β) :
    Keeps deep (items.forM step) (items.forM roomy) := by
  induction items with
  | nil => exact refl deep _
  | cons b rest ih => exact (h b).bind fun _ => ih

end Step.Keeps

/-- The same options with another limit. -/
def Options.withLimit (opts : Options) (limit : ℕ) : Options := { opts with maxDepth := limit }

/-- Nothing follows a failure. -/
theorem throw_bind (e : ε) (next : α → Step ε β) : (throw e : Step ε α) >>= next = throw e := rfl

variable {lib : Library} {opts : Options} {limit : ℕ} {role dir : Text} {scope : Scope}

/-- Includes keep to each other when the files they lead to do. -/
theorem keeps_followAll {deep : ExpandError → Prop} {child roomy : Text → Step ExpandError Node}
    (h : ∀ file, Step.Keeps deep (child file) (roomy file)) (role location : Text) (scope : Scope) (node : Node)
    (targets : List Text) :
    Step.Keeps deep (followAll role location scope node child targets)
      (followAll role location scope node roomy targets) := by
  induction targets with
  | nil => exact .refl _ _
  | cons target rest ih =>
    rw [followAll, followAll]
    refine .after _ fun _ => ?_
    cases scope.resolve target with
    | error e => exact .refl _ _
    | ok file =>
      have hcall : Step.Keeps deep
          (child file >>= fun callee => addNode callee >>= fun _ => addNode node >>= fun _ =>
            addCall .edge node callee >>= fun _ => followAll role location scope node child rest)
          (roomy file >>= fun callee => addNode callee >>= fun _ => addNode node >>= fun _ =>
            addCall .edge node callee >>= fun _ => followAll role location scope node roomy rest) :=
        (h file).bind fun _ => .after _ fun _ => .after _ fun _ => .after _ fun _ => ih
      exact .after_if _ _ hcall

/-- A file on its own trail closes a cycle, with or without room. -/
theorem expand_of_cycle {trail : List Text} {file : Text} (h : taskLocation dir file ∈ trail) (room : ℕ) :
    expand lib opts role dir scope room trail file = throw (.cycle role (trail ++ [taskLocation dir file])) := by
  cases room with
  | zero =>
    rw [expand]
    exact if_pos h
  | succ room =>
    rw [expand]
    dsimp only
    rw [if_pos h, throw_bind]

/-- With more room a task file is followed alike, unless the chain is too deep for the lesser room. -/
theorem keeps_expand {room room' : ℕ} (hroom : room ≤ room') (trail : List Text) (file : Text) :
    Step.Keeps (·.kind = .tooDeep) (expand lib opts role dir scope room trail file)
      (expand lib (opts.withLimit limit) role dir scope room' trail file) := by
  induction room generalizing room' trail file with
  | zero =>
    by_cases hcycle : taskLocation dir file ∈ trail
    · rw [expand_of_cycle hcycle, expand_of_cycle hcycle]
      exact .refl _ _
    · intro st
      rw [expand]
      dsimp only
      rw [if_neg hcycle]
      exact Or.inl ⟨_, rfl, rfl⟩
  | succ room ih =>
    by_cases hcycle : taskLocation dir file ∈ trail
    · rw [expand_of_cycle hcycle, expand_of_cycle hcycle]
      exact .refl _ _
    obtain ⟨room', rfl⟩ := Nat.exists_eq_add_one.mpr (Nat.lt_of_lt_of_le (Nat.succ_pos room) hroom)
    rw [expand, expand]
    dsimp only
    rw [if_neg hcycle, if_neg hcycle]
    refine .after _ fun known => .after _ fun memo => ?_
    by_cases hmemo : (taskLocation dir file, scope.fingerprint) ∈ memo.expanded
    · rw [if_pos hmemo, if_pos hmemo]
      exact .refl _ _
    rw [if_neg hmemo, if_neg hmemo]
    refine .after _ fun _ => ?_
    cases lib.tasks (taskLocation dir file) with
    | error e => exact .refl _ _
    | ok tasks =>
      have hincludes := keeps_followAll (ih (Nat.le_of_succ_le_succ hroom) (trail ++ [taskLocation dir file])) role
        (taskLocation dir file) scope (known.graph.stored (.task role file)) (Task.scan opts.includeKeys tasks).targets
      exact hincludes.bind fun _ => .refl _ _

/-- With a greater limit a role is followed alike, unless a chain is too deep for the smaller one. -/
theorem keeps_followRole (hlimit : opts.maxDepth ≤ limit) (caller : Node) :
    Step.Keeps (·.kind = .tooDeep) (followRole lib opts caller scope role)
      (followRole lib (opts.withLimit limit) caller scope role) := by
  have hmain : Step.Keeps (fun e : RoleError => e.kind = .tooDeep)
      (wrapping .expand (expand lib opts role (tasksDir opts role) scope opts.maxDepth [] mainFile))
      (wrapping .expand (expand lib (opts.withLimit limit) role (tasksDir opts role) scope limit [] mainFile)) :=
    (keeps_expand hlimit [] mainFile).wrapping fun _ he => he
  have htasks : tasksDir (opts.withLimit limit) role = tasksDir opts role := rfl
  rw [followRole, followRole, htasks]
  refine .after _ fun _ => ?_
  refine .after_if _ _ ?_
  dsimp only
  cases lib.holds (tasksDir opts role) with
  | error e => exact .refl _ _
  | ok there =>
    cases there with
    | false => exact .refl _ _
    | true => exact hmain.bind fun _ => .refl _ _

/-- With a greater limit a play is followed alike, unless a chain is too deep for the smaller one. -/
theorem keeps_followPlay (hlimit : opts.maxDepth ≤ limit) (root : Node) (index : ℕ) (play : Play) :
    Step.Keeps (·.kind = .tooDeep) (followPlay lib opts root index play)
      (followPlay lib (opts.withLimit limit) root index play) := by
  have hroles : Step.Keeps (fun e : PlaybookError => e.kind = .tooDeep)
      ((rolesOf opts play).forM fun role =>
        wrapping (.play root.id (play.displayName index)) (followRole lib opts root play.vars role))
      ((rolesOf opts play).forM fun role =>
        wrapping (.play root.id (play.displayName index))
          (followRole lib (opts.withLimit limit) root play.vars role)) :=
    .forM (fun role => (keeps_followRole hlimit root).wrapping fun _ he => he) _
  have hallRoles : (opts.withLimit limit).allRoles = opts.allRoles := rfl
  rw [followPlay, followPlay, hallRoles]
  refine .after _ fun _ => ?_
  -- Only a play with several roles may note that the others are left out.
  match play.roles with
  | [] => exact hroles
  | [_] => exact hroles
  | _ :: _ :: _ => exact .after_if _ _ hroles

/-- With a greater limit plays are followed alike, unless a chain is too deep for the smaller one. -/
theorem keeps_followPlays (hlimit : opts.maxDepth ≤ limit) (root : Node) (index : ℕ) (plays : List Play) :
    Step.Keeps (·.kind = .tooDeep) (followPlays lib opts root index plays)
      (followPlays lib (opts.withLimit limit) root index plays) := by
  induction plays generalizing index with
  | nil => exact .refl _ _
  | cons play rest ih => exact (keeps_followPlay hlimit root index play).bind fun _ => ih (index + 1)

/-- With a greater limit a playbook is followed alike, unless a chain is too deep for the smaller one. -/
theorem keeps_followPlaybook (lib : Library) (hlimit : opts.maxDepth ≤ limit) (location : Text) :
    Step.Keeps (·.kind = .tooDeep) (followPlaybook lib opts location)
      (followPlaybook lib (opts.withLimit limit) location) := by
  rw [followPlaybook, followPlaybook]
  refine .after _ fun _ => ?_
  cases lib.plays location with
  | error e => exact .refl _ _
  | ok plays =>
    refine .after _ fun st => ?_
    have hplays : Step.Keeps (fun e : PlaybookError => e.kind = .tooDeep)
        (addNode (.playbook location) >>= fun _ => get >>= fun st =>
          note .info "created root node" [("id", .text (st.graph.stored (.playbook location)).id)] >>= fun _ =>
            followPlays lib opts (st.graph.stored (.playbook location)) 0 plays)
        (addNode (.playbook location) >>= fun _ => get >>= fun st =>
          note .info "created root node" [("id", .text (st.graph.stored (.playbook location)).id)] >>= fun _ =>
            followPlays lib (opts.withLimit limit) (st.graph.stored (.playbook location)) 0 plays) :=
      .after _ fun _ => .after _ fun st => .after _ fun _ => keeps_followPlays hlimit _ 0 plays
    cases st.graph.find? (Node.playbook location).id with
    | none => exact hplays
    | some known => exact .after_if _ _ hplays

end Analysis

/-- The same analyzer with another limit. -/
def Analyzer.withLimit (a : Analyzer) (limit : ℕ) : Analyzer := { a with options := a.options.withLimit limit }

/-- A playbook that does not fail because of the depth does the same under every greater limit: it ends
alike and leaves the same graph, memo and log. -/
theorem Analyzer.playbook_limit_raised (a : Analyzer) (s : Site) (location : Text) (st : Analysis.State)
    {limit : ℕ} (hlimit : a.options.maxDepth ≤ limit)
    (h : ∀ e, ((a.playbook s location).run st).1 = .error e → e.kind ≠ .tooDeep) :
    ((a.withLimit limit).playbook s location).run st = (a.playbook s location).run st := by
  rcases Analysis.keeps_followPlaybook s.library hlimit (Location.normalize s.cwd location) st with
    ⟨e, he, hdeep⟩ | hsame
  · exact absurd hdeep (h e he)
  · exact hsame

/-- The looping site fails with its cycle under a limit of three files, and under one of sixty-four it
does the same. -/
theorem Analyzer.playbook_limit_raised_looping :
    threeDeep.options.maxDepth ≤ 64 ∧
      (∃ e, ((threeDeep.playbook loopingSite "/p.yml").run {}).1 = .error e ∧ e.kind = .cycle) ∧
      ((threeDeep.withLimit 64).playbook loopingSite "/p.yml").run {} =
        (threeDeep.playbook loopingSite "/p.yml").run {} := by
  have hcycle : ∃ e, ((threeDeep.playbook loopingSite "/p.yml").run {}).1 = .error e ∧ e.kind = .cycle :=
    Analysis.failureKind?_eq_some.mp (by decide +kernel)
  have hlimit : threeDeep.options.maxDepth ≤ 64 := by decide
  refine ⟨hlimit, hcycle, threeDeep.playbook_limit_raised loopingSite "/p.yml" {} hlimit fun e he => ?_⟩
  obtain ⟨e', he', hkind⟩ := hcycle
  obtain rfl : e = e' := Except.error.inj (he.symm.trans he')
  rw [hkind]
  exact nofun

end RoleGraph
