import Mathlib.Logic.Relation
import RoleGraph.Proofs.Failures
import RoleGraph.Proofs.LevelOrder

/-!
# The order in which tasks are examined

A scan opens a block by adding the tasks inside it at the end of its work list. The list therefore
gives the tasks of a file in level order, and the scan is one pass over them that stops at the first
faulty task. What is inside a block counts only when all its sections are well formed, so the first
block with a bad section ends the pass.

Each turn of the scan takes one task off the work list and what it adds has fewer parts, so there are
only finitely many turns.
-/

namespace RoleGraph

namespace Task

/-- Records are tasks. -/
theorem ofItems_of_records {items : List Yaml.Value} (h : ∀ v ∈ items, ∃ entries, v = .record entries)
    (index : ℕ) : ofItems index items = .ok (items.filterMap ofRecord?) := by
  induction items generalizing index with
  | nil => rfl
  | cons v rest ih =>
    obtain ⟨entries, rfl⟩ := h v List.mem_cons_self
    have hrest := ih (fun w hw => h w (List.mem_cons_of_mem _ hw)) (index + 1)
    simp only [ofItems, hrest]
    rfl

/-- A well-formed section has the tasks in it. -/
theorem SectionWellFormed.sectionTasks {t : Task} {name : Text} (h : t.SectionWellFormed name) :
    t.sectionTasks name = .ok (t.inSection name) := by
  unfold Task.sectionTasks inSection
  rcases h with hnone | hnull | ⟨items, hitems, hrecords⟩
  · rw [hnone]
  · rw [hnull]
  · rw [hitems]
    simp only [ofValue, ofItems_of_records hrecords]

/-- Well-formed sections have the tasks in them, one section after the other. -/
theorem sectionsTasks_of_wellFormed {t : Task} {names : List Text} (h : ∀ name ∈ names, t.SectionWellFormed name) :
    t.sectionsTasks names = .ok (names.flatMap t.inSection) := by
  induction names with
  | nil => rfl
  | cons name names ih =>
    have hrest := ih fun other hother => h other (List.mem_cons_of_mem _ hother)
    simp only [sectionsTasks, (h name List.mem_cons_self).sectionTasks, hrest]
    rfl

/-- A block opens exactly when its sections are well formed, and then holds the tasks inside it. -/
theorem block_eq_ok_iff {t : Task} {nested : List Task} (hb : t.isBlock = true) :
    t.block = .ok nested ↔ (∀ name ∈ sections, t.SectionWellFormed name) ∧ nested = t.inside := by
  have hinside : t.inside = sections.flatMap t.inSection := if_pos hb
  constructor
  · intro h
    have hwell : ∀ name ∈ sections, t.SectionWellFormed name := fun name hname => (sectionsTasks_ok h name hname).1
    rw [block, sectionsTasks_of_wellFormed hwell] at h
    cases h
    exact ⟨hwell, hinside.symm⟩
  · rintro ⟨hwell, rfl⟩
    rw [block, sectionsTasks_of_wellFormed hwell, hinside]

/-- The fault of some sections is that of one of them. -/
theorem sectionsTasks_error {t : Task} {names : List Text} {fault : TaskFault}
    (h : t.sectionsTasks names = .error fault) :
    ∃ name ∈ names, ∃ cause, fault = .badSection name cause ∧ ¬ t.SectionWellFormed name := by
  induction names with
  | nil => cases h
  | cons name names ih =>
    by_cases hwell : t.SectionWellFormed name
    · simp only [sectionsTasks, hwell.sectionTasks, bind, Except.bind, pure, Except.pure] at h
      split at h
      · rename_i hrest
        cases h
        obtain ⟨other, hother, cause, hfault⟩ := ih hrest
        exact ⟨other, List.mem_cons_of_mem _ hother, cause, hfault⟩
      · contradiction
    · refine ⟨name, List.mem_cons_self, ?_⟩
      cases hsection : t.sectionTasks name with
      | ok tasks => exact absurd (sectionTasks_ok hsection).1 hwell
      | error cause =>
        simp only [sectionsTasks, hsection, bind, Except.bind] at h
        cases h
        unfold sectionTasks at hsection
        split at hsection
        · cases hsection
        · cases hsection
        · split at hsection
          · cases hsection
          · cases hsection
            exact ⟨_, rfl, hwell⟩

/-- A block with a section that is not well formed does not open, because of such a section. -/
theorem block_error_of_bad {t : Task} (hbad : ∃ name ∈ sections, ¬ t.SectionWellFormed name) :
    ∃ name ∈ sections, ∃ cause, ¬ t.SectionWellFormed name ∧ t.block = .error (.badSection name cause) := by
  cases h : t.block with
  | ok nested =>
    obtain ⟨name, hname, hnot⟩ := hbad
    exact absurd (sectionsTasks_ok h name hname).1 hnot
  | error fault =>
    obtain ⟨name, hname, cause, rfl, hnot⟩ := sectionsTasks_error h
    exact ⟨name, hname, cause, hnot, rfl⟩

/-! ## The work list -/

/-- The first task leaves fewer parts when what is inside it waits behind the others. -/
theorem queueWeight_behind_lt (t : Task) (rest : List Task) :
    queueWeight (rest ++ t.inside) < queueWeight (t :: rest) := by
  have := queueWeight_inside t
  rw [queueWeight_append, queueWeight]
  omega

/-- A list of tasks and those inside them, as a work list gives them: what is inside the first task
comes after the others. -/
def queued : List Task → List Task
  | [] => []
  | t :: rest =>
    have := queueWeight_behind_lt t rest
    t :: queued (rest ++ t.inside)
termination_by tasks => queueWeight tasks

/-- What waits behind other tasks comes after them and before what is inside them. -/
theorem queued_append (xs ys : List Task) : queued (xs ++ ys) = xs ++ queued (ys ++ xs.flatMap inside) := by
  induction xs generalizing ys with
  | nil => simp
  | cons x xs ih => rw [List.cons_append, queued, List.append_assoc, ih, List.flatMap_cons, List.append_assoc]; rfl

/-- A work list gives its tasks level by level. -/
theorem queued_eq (depth : ℕ) (tasks : List Task) : queued tasks = (levelsFrom depth tasks).map Prod.snd := by
  fun_induction levelsFrom depth tasks with
  | case1 depth => rw [queued]; rfl
  | case2 depth t rest _ ih =>
    have hlevel : ((t :: rest).map (Prod.mk depth)).map Prod.snd = t :: rest := by simp [Function.comp_def]
    have hqueued := queued_append (t :: rest) []
    rw [List.append_nil, List.nil_append] at hqueued
    rw [hqueued, ih, List.map_append, hlevel]

/-- What a scan makes of one task: a block is opened, and any other task may include a file. -/
def check (keys : List Text) (t : Task) : Except TaskFault (Option Text) :=
  if t.isBlock then t.block.map fun _ => none else t.included keys

/-- What is found from a task at a position on, when the task is checked before the others. -/
def Scanned.behind (found : Scanned) (index : ℕ) : Except TaskFault (Option Text) → Scanned
  | .error fault => { fault := some ⟨index, fault⟩ }
  | .ok none => found
  | .ok (some target) => found.push target

/-- Check tasks in turn, from a position on, up to the first faulty one. -/
def checkAll (keys : List Text) (index : ℕ) : List Task → Scanned
  | [] => {}
  | t :: rest => (checkAll keys (index + 1) rest).behind index (t.check keys)

/-- A scan checks the first task and goes on with what is inside it at the end of the work list. -/
theorem scanFrom_step (keys : List Text) (index : ℕ) (t : Task) (rest : List Task) :
    scanFrom keys index (t :: rest) =
      (scanFrom keys (index + 1) (rest ++ t.inside)).behind index (t.check keys) := by
  rw [scanFrom_cons]
  split_ifs with hb
  · cases h : t.block with
    | error fault =>
      have hcheck : t.check keys = .error fault := by rw [check, if_pos hb, h]; rfl
      rw [hcheck]
      rfl
    | ok nested =>
      have hcheck : t.check keys = .ok none := by rw [check, if_pos hb, h]; rfl
      rw [hcheck, ((block_eq_ok_iff hb).mp h).2]
      rfl
  · have hcheck : t.check keys = t.included keys := if_neg hb
    have hinside : t.inside = [] := if_neg hb
    rw [hcheck, hinside, List.append_nil]
    rcases t.included keys with fault | _ | target <;> rfl

/-- A scan is one pass over the tasks that its work list gives. -/
theorem scanFrom_eq_checkAll (keys : List Text) (index : ℕ) (tasks : List Task) :
    scanFrom keys index tasks = checkAll keys index (queued tasks) := by
  fun_induction queued tasks generalizing index with
  | case1 => rw [scanFrom]; rfl
  | case2 t rest _ ih => rw [scanFrom_step, ih, checkAll]

/-- A pass over sound tasks goes on behind them. -/
theorem checkAll_append {keys : List Text} {before after : List Task} {index : ℕ}
    (h : ∀ t ∈ before, ∃ target, t.check keys = .ok target) :
    (checkAll keys index (before ++ after)).fault = (checkAll keys (index + before.length) after).fault := by
  induction before generalizing index with
  | nil => rfl
  | cons t rest ih =>
    obtain ⟨target, htarget⟩ := h t List.mem_cons_self
    have hrest := @ih (index + 1) fun u hu => h u (List.mem_cons_of_mem _ hu)
    have hindex : index + 1 + rest.length = index + (t :: rest).length := by rw [List.length_cons]; omega
    rw [hindex] at hrest
    rw [List.cons_append, checkAll, htarget]
    cases target with
    | none => exact hrest
    | some target => exact hrest

/-- The work list of a scan: the tasks examined so far that are no blocks, and those that wait. -/
structure WorkList where
  examined : List Task := []
  waiting : List Task

/-- One turn of a scan opens a block or examines a task that is none. -/
inductive WorkList.Turn : WorkList → WorkList → Prop
  | opened {examined rest nested : List Task} {t : Task} (hb : t.isBlock = true) (h : t.block = .ok nested) :
      Turn ⟨examined, t :: rest⟩ ⟨examined, rest ++ nested⟩
  | examined {examined rest : List Task} {t : Task} (hb : t.isBlock = false) :
      Turn ⟨examined, t :: rest⟩ ⟨examined ++ [t], rest⟩

/-- The tasks of an order that are no blocks. -/
def plain (order : List (ℕ × Task)) : List Task := (order.map Prod.snd).filter (!·.isBlock)

/-- Every block of a list, at any depth, has well-formed sections. -/
def BlocksWellFormed (tasks : List Task) : Prop :=
  ∀ t, Within tasks t → t.isBlock = true → ∀ name ∈ sections, t.SectionWellFormed name

/-- A turn takes the first task that waits and adds what is inside it at the end. -/
theorem WorkList.Turn.waiting_eq {w w' : WorkList} (h : w.Turn w') :
    ∃ t rest, w.waiting = t :: rest ∧ w'.waiting = rest ++ t.inside := by
  cases h with
  | opened hb h => exact ⟨_, _, rfl, by rw [((block_eq_ok_iff hb).mp h).2]⟩
  | examined hb => exact ⟨_, _, rfl, by rw [inside, if_neg (by simp [hb]), List.append_nil]⟩

/-- No turns go on forever. -/
theorem WorkList.turn_wellFounded : WellFounded fun w w' : WorkList => w'.Turn w := by
  refine Subrelation.wf ?_ (InvImage.wf (fun w : WorkList => queueWeight w.waiting) Nat.lt_wfRel.wf)
  intro w w' h
  obtain ⟨t, rest, hw, hw'⟩ := h.waiting_eq
  have := queueWeight_inside t
  simp only [InvImage, WellFoundedRelation.rel, hw, hw', queueWeight_append, queueWeight]
  omega

/-- What is inside a task of a list is within the list. -/
theorem Within.of_inside {t u : Task} {rest : List Task} (hb : t.isBlock = true)
    (hu : Within (rest ++ t.inside) u) : Within (t :: rest) u := by
  induction hu with
  | top hmem =>
    rcases List.mem_append.mp hmem with hmem | hmem
    · exact .top (List.mem_cons_of_mem t hmem)
    · rw [inside, if_pos hb, List.mem_flatMap] at hmem
      obtain ⟨name, hname, hmem⟩ := hmem
      unfold inSection at hmem
      split at hmem
      · rename_i items hitems
        obtain ⟨v, hv, hrecord⟩ := List.mem_filterMap.mp hmem
        cases v with
        | record entries =>
          cases hrecord
          exact .inner (.top List.mem_cons_self) hb hname hitems hv
        | scalar s => cases hrecord
        | list items => cases hrecord
        | dict entries => cases hrecord
      · simp at hmem
  | inner _ hblock hname hitems hentries ih => exact .inner ih hblock hname hitems hentries

/-- What is within some tasks of a list is within the list. -/
theorem Within.mono {xs ys : List Task} {u : Task} (h : xs ⊆ ys) (hu : Within xs u) : Within ys u := by
  induction hu with
  | top hmem => exact .top (h hmem)
  | inner _ hblock hname hitems hentries ih => exact .inner ih hblock hname hitems hentries

/-- A work list whose blocks are well formed is worked off, and its tasks are examined in order. -/
theorem WorkList.turns_queued (examined waiting : List Task) (h : BlocksWellFormed waiting) :
    Relation.ReflTransGen Turn ⟨examined, waiting⟩ ⟨examined ++ (queued waiting).filter (!·.isBlock), []⟩ := by
  fun_induction queued waiting generalizing examined with
  | case1 => rw [List.filter_nil, List.append_nil]
  | case2 t rest _ ih =>
    cases hb : t.isBlock with
    | true =>
      have hblock : t.block = .ok t.inside :=
        (block_eq_ok_iff hb).mpr ⟨h t (.top List.mem_cons_self) hb, rfl⟩
      rw [List.filter_cons_of_neg (by simp [hb])]
      exact .head (.opened hb hblock) (ih examined fun u hu => h u (hu.of_inside hb))
    | false =>
      have hinside : t.inside = [] := if_neg (by simp [hb])
      rw [hinside, List.append_nil] at ih
      rw [hinside, List.append_nil, List.filter_cons_of_pos (by simp [hb]), List.append_cons]
      exact .head (.examined hb) (ih (examined ++ [t]) fun u hu => h u (hu.mono (List.subset_cons_self t rest)))

/-- The outline of a file whose blocks are well formed has the tasks that remain when every block is
replaced by the tasks inside it. -/
theorem plain_outline (depth : ℕ) (tasks : List Task) (h : BlocksWellFormed tasks) :
    plain (outline depth tasks) = leaves tasks := by
  fun_induction outline depth tasks with
  | case1 depth => rw [leaves]; rfl
  | case2 depth t rest _ _ ihInside ihRest =>
    have hrest := ihRest fun u hu => h u (hu.mono (List.subset_cons_self t rest))
    unfold plain at ihInside hrest ⊢
    rw [List.map_cons, List.map_append]
    cases hb : t.isBlock with
    | true =>
      have hblock : t.block = .ok t.inside :=
        (block_eq_ok_iff hb).mpr ⟨h t (.top List.mem_cons_self) hb, rfl⟩
      have hinside : BlocksWellFormed t.inside := fun u hu =>
        h u (Within.of_inside hb (hu.mono (List.subset_append_right rest t.inside)))
      rw [List.filter_cons_of_neg (by simp [hb]), List.filter_append, hrest, ihInside hinside,
        leaves_block hb hblock]
    | false =>
      have hinside : t.inside = [] := if_neg (by simp [hb])
      rw [List.filter_cons_of_pos (by simp [hb]), hinside, outline, List.map_nil, List.nil_append, hrest,
        leaves_plain hb]

/-- Some block of a list, at any depth, has a section that is neither null nor a list of records. -/
def HasBadBlock (tasks : List Task) : Prop :=
  ∃ b, Within tasks b ∧ b.isBlock = true ∧ ∃ name ∈ sections, ¬ b.SectionWellFormed name

/-- A scan of a list with a bad block stops at a fault. -/
theorem HasBadBlock.exists_fault {tasks : List Task} (h : HasBadBlock tasks) (keys : List Text) :
    ∃ f, (scan keys tasks).fault = some f := by
  obtain ⟨b, hb, hblock, name, hname, hbad⟩ := h
  rw [← Option.ne_none_iff_exists']
  intro hnone
  exact hbad ((wellFormed_of_scanFrom hnone b hb).1 hblock name hname)

/-- A scan examines the tasks of a file in level order. -/
structure ScansByLevel (keys : List Text) (tasks : List Task) : Prop where
  /-- The tasks of one depth come before those of the next. -/
  sorted : (levelOrder tasks).Pairwise fun a b => a.1 ≤ b.1
  document_order : ∀ depth,
    (levelOrder tasks).filter (·.1 == depth) = (outline 0 tasks).filter (·.1 == depth)
  perm : (levelOrder tasks).Perm (outline 0 tasks)
  terminates : Acc (fun w w' : WorkList => w'.Turn w) ⟨[], tasks⟩
  /-- Each turn of the work list is one step of the scan. -/
  turn : ∀ {w w' : WorkList}, w.Turn w' → ∃ t rest, w.waiting = t :: rest ∧ ∀ index,
    scanFrom keys index w.waiting = (scanFrom keys (index + 1) w'.waiting).behind index (t.check keys)
  /-- The tasks that are no blocks are examined in level order, each of them once. -/
  examined : BlocksWellFormed tasks →
    Relation.ReflTransGen WorkList.Turn ⟨[], tasks⟩ ⟨plain (levelOrder tasks), []⟩ ∧
      (plain (levelOrder tasks)).Perm (leaves tasks)
  /-- The scan goes through the level order up to the first faulty task. -/
  scan_eq : scan keys tasks = checkAll keys 0 ((levelOrder tasks).map Prod.snd)
  /-- A bad block behind sound tasks is the fault of the scan. -/
  bad_block : ∀ before b after, (levelOrder tasks).map Prod.snd = before ++ b :: after →
    (∀ t ∈ before, ∃ target, t.check keys = .ok target) → b.isBlock = true →
      (∃ name ∈ sections, ¬ b.SectionWellFormed name) →
        ∃ name ∈ sections, ∃ cause, ¬ b.SectionWellFormed name ∧
          (scan keys tasks).fault = some ⟨before.length, .badSection name cause⟩

/-- Every scan examines the tasks in level order. -/
theorem scansByLevel (keys : List Text) (tasks : List Task) : ScansByLevel keys tasks where
  sorted := levelsFrom_pairwise 0 tasks
  document_order depth := filter_levelOrder depth tasks
  perm := levelOrder_perm tasks
  terminates := WorkList.turn_wellFounded.apply _
  turn := by
    intro w w' h
    obtain ⟨t, rest, hw, hw'⟩ := h.waiting_eq
    refine ⟨t, rest, hw, fun index => ?_⟩
    rw [hw, hw', scanFrom_step]
  examined h := by
    have hturns := WorkList.turns_queued [] tasks h
    have hplain : (plain (levelOrder tasks)).Perm (plain (outline 0 tasks)) :=
      ((levelOrder_perm tasks).map Prod.snd).filter _
    rw [queued_eq 0] at hturns
    rw [plain_outline 0 tasks h] at hplain
    exact ⟨hturns, hplain⟩
  scan_eq := by rw [scan, scanFrom_eq_checkAll, queued_eq 0]; rfl
  bad_block := by
    intro before b after horder hbefore hblock hbad
    obtain ⟨name, hname, cause, hnot, herror⟩ := block_error_of_bad hbad
    have hcheck : b.check keys = .error (.badSection name cause) := by rw [check, if_pos hblock, herror]; rfl
    refine ⟨name, hname, cause, hnot, ?_⟩
    rw [scan, scanFrom_eq_checkAll, queued_eq 0]
    rw [levelOrder] at horder
    rw [horder, checkAll_append hbefore, checkAll, hcheck, Nat.zero_add]
    rfl

end Task

namespace Analysis

/-- The state of an analysis that begins to read the task file at a location. -/
def State.reading (s : State) (location : Text) : State :=
  { s with log := s.log ++ [⟨.info, "analyzing task file", [("path", .text location)]⟩] }

/-- A task file with a faulty task is followed up to the fault: once its earlier includes are
followed, the fault is reported. -/
theorem expand_of_fault {lib : Library} {opts : Options} {role dir file : Text} {scope : Scope} {room : ℕ}
    {trail : List Text} {s s' : State} {tasks : List Task} {f : Task.ScanFault}
    (htasks : lib.tasks (taskLocation dir file) = .ok tasks) (htrail : taskLocation dir file ∉ trail)
    (hnew : (taskLocation dir file, scope.fingerprint) ∉ s.expanded)
    (hfault : (Task.scan opts.includeKeys tasks).fault = some f)
    (hearlier : (followAll role (taskLocation dir file) scope (s.graph.stored (.task role file))
      (expand lib opts role dir scope room (trail ++ [taskLocation dir file]))
      (Task.scan opts.includeKeys tasks).targets).run (s.reading (taskLocation dir file)) = (.ok (), s')) :
    (expand lib opts role dir scope (room + 1) trail file).run s =
      (.error (.task role (taskLocation dir file) f.index f.fault), s') := by
  have hget : (get : Step ExpandError State).run s = (.ok s, s) := rfl
  have hnote : (note .info "analyzing task file" [("path", .text (taskLocation dir file))] :
      Step ExpandError Unit).run s = (.ok (), s.reading (taskLocation dir file)) := rfl
  rw [expand]
  dsimp only
  rw [if_neg htrail, run_bind, hget]
  dsimp only
  rw [run_bind, hget]
  dsimp only
  rw [if_neg hnew, run_bind, hnote]
  dsimp only
  rw [htasks]
  dsimp only
  rw [run_bind, hearlier]
  dsimp only
  rw [hfault]
  rfl

/-- The tasks of a file are examined once each, in level order. When a block that is reached has a
section that is no list of tasks, the scan stops at a fault, and following the file fails with a parse
failure unless following an earlier include fails. -/
theorem scan_levelOrder (keys : List Text) (tasks : List Task) :
    Task.ScansByLevel keys tasks ∧
      (Task.HasBadBlock tasks → ∃ f, (Task.scan keys tasks).fault = some f ∧
        ∀ (lib : Library) (opts : Options) (role dir file : Text) (scope : Scope) (room : ℕ)
          (trail : List Text) (s s' : State), opts.includeKeys = keys →
          lib.tasks (taskLocation dir file) = .ok tasks → taskLocation dir file ∉ trail →
          (taskLocation dir file, scope.fingerprint) ∉ s.expanded →
          (followAll role (taskLocation dir file) scope (s.graph.stored (.task role file))
            (expand lib opts role dir scope room (trail ++ [taskLocation dir file]))
            (Task.scan keys tasks).targets).run (s.reading (taskLocation dir file)) = (.ok (), s') →
          ∃ e, (expand lib opts role dir scope (room + 1) trail file).run s = (.error e, s') ∧
            e.kind = .parse) := by
  refine ⟨Task.scansByLevel keys tasks, fun hbad => ?_⟩
  obtain ⟨f, hf⟩ := hbad.exists_fault keys
  refine ⟨f, hf, ?_⟩
  rintro lib opts role dir file scope room trail s s' rfl htasks htrail hnew hearlier
  exact ⟨_, expand_of_fault htasks htrail hnew hf hearlier, rfl⟩

/-- A task that includes a file. -/
def includeEntries (file : Text) : List (Text × Yaml.Value) := [("include_tasks", .scalar (.str file))]

/-- A block with an include and an inner block, before another include. -/
def nestedTasks : List Task :=
  [⟨[("block", .list [.record (includeEntries "inner.yml"),
      .record [("block", .list [.record (includeEntries "deepest.yml")])]]), ("rescue", .scalar .null)]⟩,
    ⟨includeEntries "outer.yml"⟩]

/-- Blocks with an include before a block whose `rescue` section is a text. -/
def badRescueTasks : List Task :=
  [⟨[("block", .list [.record [("block", .list []), ("rescue", .scalar (.str "retry"))]])]⟩,
    ⟨includeEntries "a.yml"⟩]

/-- The tasks with the bad block are those of one file, and the other files are empty. -/
def badRescueLibrary : Library where
  holds _ := .ok true
  plays _ := .ok []
  tasks location := .ok (if location = "/r/main.yml" then badRescueTasks else [])

/-- Nested includes are examined level by level. Behind an include a bad block is the fault of the scan,
and following the file fails once the include is followed. -/
theorem scan_levelOrder_badRescue :
    (∃ examined, Relation.ReflTransGen Task.WorkList.Turn ⟨[], nestedTasks⟩ ⟨examined, []⟩ ∧
        examined.map (·.entries) =
          [includeEntries "outer.yml", includeEntries "inner.yml", includeEntries "deepest.yml"]) ∧
      Task.HasBadBlock badRescueTasks ∧
      (Task.scan Task.includeKeys badRescueTasks).targets = ["a.yml"] ∧
      (∃ f, (Task.scan Task.includeKeys badRescueTasks).fault = some f ∧ f.index = 2) ∧
      ∃ e s, (expand badRescueLibrary { rolesDir := "/r" } "r" "/r" {} 64 [] "main.yml").run {} = (.error e, s) ∧
        e.kind = .parse ∧ s.graph.calls.length = 1 := by
  have hsound : (Task.scan Task.includeKeys nestedTasks).fault = none := by decide +kernel
  have hwell : Task.BlocksWellFormed nestedTasks := fun t ht => (Task.wellFormed_of_scanFrom hsound t ht).1
  have hexamined := ((scan_levelOrder Task.includeKeys nestedTasks).1.examined hwell).1
  have hbad : Task.HasBadBlock badRescueTasks := by
    have hname : Text.ofString "block" ∈ Task.sections := by decide
    refine ⟨_, .inner (.top List.mem_cons_self) rfl hname rfl List.mem_cons_self, rfl, "rescue", by decide, ?_⟩
    rintro (h | h | ⟨items, h, -⟩)
    · cases h
    · cases h
    · cases h
  obtain ⟨f, hf, hfails⟩ := (scan_levelOrder Task.includeKeys badRescueTasks).2 hbad
  have hindex : (Task.scan Task.includeKeys badRescueTasks).fault.map (·.index) = some 2 := by decide +kernel
  rw [hf] at hindex
  have htasks : badRescueLibrary.tasks (taskLocation "/r" "main.yml") = .ok badRescueTasks :=
    congrArg Except.ok (if_pos (by decide +kernel))
  have htrail : taskLocation "/r" "main.yml" ∉ ([] : List Text) := List.not_mem_nil
  have hnew : (taskLocation "/r" "main.yml", Scope.fingerprint {}) ∉ State.expanded {} := List.not_mem_nil
  obtain ⟨e, he, hkind⟩ := hfails badRescueLibrary { rolesDir := "/r" } "r" "/r" "main.yml" {} 63 [] {} _ rfl
    htasks htrail hnew (Prod.ext (eq_ok_of_isOk (by decide +kernel)) rfl)
  exact ⟨⟨_, hexamined, by decide +kernel⟩, hbad, by decide +kernel, ⟨f, hf, Option.some.inj hindex⟩,
    e, _, he, hkind, by decide +kernel⟩

end Analysis

end RoleGraph
