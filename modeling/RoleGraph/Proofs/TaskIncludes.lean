import Mathlib.Data.List.Perm.Basic
import RoleGraph.Analysis.Scan

/-!
# The includes of a task file, whatever their depth

A file is scanned from a work list that grows. Here its includes are read off the block structure
instead: a block is replaced by the tasks inside it, at any depth, and each remaining task may
include one file. A scan without a fault finds exactly these includes, with repetitions, and then
every section and every include of the file is well formed. A scan that stops at a fault finds some
of them.
-/

namespace RoleGraph

namespace Task

/-- The tasks after the first one have fewer parts than all. -/
theorem queueWeight_rest_lt (t : Task) (rest : List Task) : queueWeight rest < queueWeight (t :: rest) := by
  simp only [queueWeight]
  omega

/-- The tasks inside a block have fewer parts than a list that starts with it. -/
theorem queueWeight_nested_lt {t : Task} {nested : List Task} (h : t.block = .ok nested) (rest : List Task) :
    queueWeight nested < queueWeight (t :: rest) := by
  have := queueWeight_block h
  simp only [queueWeight]
  omega

/-- The tasks of a list that are no blocks, with every block replaced by the tasks inside it. A
block that cannot be opened has none. -/
def leaves : List Task → List Task
  | [] => []
  | t :: rest =>
    have := queueWeight_rest_lt t rest
    if t.isBlock then
      match h : t.block with
      | .error _ => leaves rest
      | .ok nested =>
        have := queueWeight_nested_lt h rest
        leaves nested ++ leaves rest
    else t :: leaves rest
termination_by tasks => queueWeight tasks

/-- The file that a task includes, if any. -/
def target? (keys : List Text) (t : Task) : Option Text :=
  match t.included keys with
  | .ok target => target
  | .error _ => none

/-- The files that some tasks include, at any depth and with repetitions. -/
def includes (keys : List Text) (tasks : List Task) : List Text :=
  (leaves tasks).filterMap (target? keys)

/-- The tasks at any depth of a list: its own ones and those in the sections of its blocks. -/
inductive Within (tasks : List Task) : Task → Prop where
  | top {t : Task} (h : t ∈ tasks) : Within tasks t
  | inner {b : Task} {name : Text} {items : List Yaml.Value} {entries : List (Text × Yaml.Value)}
      (hb : Within tasks b) (hblock : b.isBlock = true) (hname : name ∈ sections)
      (hitems : b.get? name = some (.list items)) (h : .record entries ∈ items) :
      Within tasks ⟨entries⟩

/-- A section is absent, null or a list of records. -/
def SectionWellFormed (t : Task) (name : Text) : Prop :=
  t.get? name = none ∨ t.get? name = some (.scalar .null) ∨
    ∃ items, t.get? name = some (.list items) ∧ ∀ v ∈ items, ∃ entries, v = .record entries

/-- The value under the first include key of a task is a file name, or a record with one. -/
def IncludeWellFormed (keys : List Text) (t : Task) : Prop :=
  ∀ key v, keys.find? t.has = some key → t.get? key = some v →
    (∃ text, v = .scalar (.str text)) ∨
      ∃ entries text, v = .record entries ∧ Yaml.getEntry? fileKey entries = some (.scalar (.str text))

/-- At every depth the sections of blocks and the includes of the other tasks are well formed. -/
def WellFormed (keys : List Text) (tasks : List Task) : Prop :=
  ∀ t, Within tasks t →
    (t.isBlock = true → ∀ name ∈ sections, t.SectionWellFormed name) ∧
      (t.isBlock = false → t.IncludeWellFormed keys)

/-- A block that opens counts as the tasks inside it. -/
theorem leaves_block {t : Task} {rest nested : List Task} (hb : t.isBlock = true)
    (h : t.block = .ok nested) : leaves (t :: rest) = leaves nested ++ leaves rest := by
  rw [leaves, if_pos hb]
  split
  · rename_i fault hfault
    rw [h] at hfault
    contradiction
  · rename_i more hmore
    rw [h] at hmore
    cases hmore
    rfl

/-- A block that cannot be opened counts as nothing. -/
theorem leaves_closed {t : Task} {rest : List Task} {fault : TaskFault} (hb : t.isBlock = true)
    (h : t.block = .error fault) : leaves (t :: rest) = leaves rest := by
  rw [leaves, if_pos hb]
  split
  · rfl
  · rename_i more hmore
    rw [h] at hmore
    contradiction

/-- A task that is no block counts as itself. -/
theorem leaves_plain {t : Task} {rest : List Task} (hb : t.isBlock = false) :
    leaves (t :: rest) = t :: leaves rest := by
  rw [leaves, if_neg (by simp [hb])]

/-- Blocks are opened list by list. -/
theorem leaves_append (xs ys : List Task) : leaves (xs ++ ys) = leaves xs ++ leaves ys := by
  induction xs with
  | nil => rw [leaves]; rfl
  | cons t xs ih =>
    cases hb : t.isBlock with
    | false => rw [List.cons_append, leaves_plain hb, leaves_plain hb, ih, List.cons_append]
    | true =>
      cases h : t.block with
      | error fault => rw [List.cons_append, leaves_closed hb h, leaves_closed hb h, ih]
      | ok nested => rw [List.cons_append, leaves_block hb h, leaves_block hb h, ih, List.append_assoc]

/-- The work list of a scan may hold the inside of a block at its end instead of in its place. -/
theorem includes_reordered (keys : List Text) {t : Task} {rest nested : List Task}
    (hb : t.isBlock = true) (h : t.block = .ok nested) :
    (includes keys (rest ++ nested)).Perm (includes keys (t :: rest)) := by
  unfold includes
  rw [leaves_append, leaves_block hb h]
  exact List.perm_append_comm.filterMap _

/-- A scan goes on with the inside of a block at the end of the work list, or with the file that the
task includes. -/
theorem scanFrom_cons (keys : List Text) (index : ℕ) (t : Task) (rest : List Task) :
    scanFrom keys index (t :: rest) =
      if t.isBlock then
        match t.block with
        | .error fault => { fault := some ⟨index, fault⟩ }
        | .ok nested => scanFrom keys (index + 1) (rest ++ nested)
      else
        match t.included keys with
        | .error fault => { fault := some ⟨index, fault⟩ }
        | .ok none => scanFrom keys (index + 1) rest
        | .ok (some target) => (scanFrom keys (index + 1) rest).push target := by
  rw [scanFrom]
  split_ifs with hblock
  · split
    · rename_i fault hfault
      simp only [hfault]
    · rename_i nested hnested
      simp only [hnested]
  · rfl

/-- A scan finds includes of the file, and all of them unless it stops at a fault. -/
theorem scanFrom_targets (keys : List Text) (index : ℕ) (tasks : List Task) :
    ∃ missed, ((scanFrom keys index tasks).targets ++ missed).Perm (includes keys tasks) ∧
      ((scanFrom keys index tasks).fault = none → missed = []) := by
  fun_induction scanFrom keys index tasks with
  | case1 index => exact ⟨[], by simp [includes, leaves], fun _ => rfl⟩
  | case2 index t rest hb fault h => exact ⟨includes keys (t :: rest), List.Perm.refl _, by simp⟩
  | case3 index t rest hb nested h _ ih =>
    obtain ⟨missed, hperm, hall⟩ := ih
    exact ⟨missed, hperm.trans (includes_reordered keys hb h), hall⟩
  | case4 index t rest hb _ fault h => exact ⟨includes keys (t :: rest), List.Perm.refl _, by simp⟩
  | case5 index t rest hb _ h ih =>
    obtain ⟨missed, hperm, hall⟩ := ih
    refine ⟨missed, ?_, hall⟩
    rwa [includes, leaves_plain (by simpa using hb), List.filterMap_cons_none (by simp [target?, h])]
  | case6 index t rest hb _ target h ih =>
    obtain ⟨missed, hperm, hall⟩ := ih
    refine ⟨missed, ?_, hall⟩
    rw [includes, leaves_plain (by simpa using hb), List.filterMap_cons_some (b := target)
      (by simp [target?, h])]
    exact hperm.cons target

/-- What a scan finds is included by the file. -/
theorem mem_includes_of_mem_targets {keys : List Text} {tasks : List Task} {target : Text}
    (h : target ∈ (scan keys tasks).targets) : target ∈ includes keys tasks := by
  obtain ⟨missed, hperm, _⟩ := scanFrom_targets keys 0 tasks
  exact hperm.subset (List.mem_append_left missed h)

/-- A scan without a fault finds every include as often as the file has it. -/
theorem scan_targets_perm {keys : List Text} {tasks : List Task} (h : (scan keys tasks).fault = none) :
    (scan keys tasks).targets.Perm (includes keys tasks) := by
  obtain ⟨missed, hperm, hall⟩ := scanFrom_targets keys 0 tasks
  rwa [hall h, List.append_nil] at hperm

/-- A list of tasks was made of records only, one for each task. -/
theorem ofItems_eq {index : ℕ} {items : List Yaml.Value} {tasks : List Task}
    (h : ofItems index items = .ok tasks) : items = tasks.map fun t => .record t.entries := by
  induction items generalizing index tasks with
  | nil => cases h; rfl
  | cons v rest ih =>
    cases v with
    | record entries =>
      simp only [ofItems, bind, Except.bind, pure, Except.pure] at h
      split at h
      · contradiction
      · rename_i more hmore
        cases h
        rw [ih hmore]
        rfl
    | scalar s => cases h
    | list items => cases h
    | dict entries => cases h

/-- A section that has tasks is well formed, and its records are these tasks. -/
theorem sectionTasks_ok {t : Task} {name : Text} {tasks : List Task}
    (h : t.sectionTasks name = .ok tasks) :
    t.SectionWellFormed name ∧
      ∀ items entries, t.get? name = some (.list items) → .record entries ∈ items → ⟨entries⟩ ∈ tasks := by
  unfold sectionTasks at h
  split at h
  · rename_i hnone
    exact ⟨Or.inl hnone, by simp [hnone]⟩
  · rename_i hnull
    exact ⟨Or.inr (Or.inl hnull), by simp [hnull]⟩
  · rename_i v _ hv
    split at h
    · rename_i made hmade
      cases h
      unfold ofValue at hmade
      split at hmade
      · rename_i items _
        have hitems := ofItems_eq hmade
        refine ⟨Or.inr (Or.inr ⟨items, hv, ?_⟩), ?_⟩
        · intro w hw
          rw [hitems] at hw
          obtain ⟨u, _, rfl⟩ := List.mem_map.mp hw
          exact ⟨u.entries, rfl⟩
        · intro others entries hothers hentries
          rw [hv] at hothers
          cases hothers
          rw [hitems] at hentries
          obtain ⟨u, hu, huEntries⟩ := List.mem_map.mp hentries
          cases huEntries
          exact hu
      · contradiction
    · contradiction

/-- Sections that have tasks together are well formed one by one. -/
theorem sectionsTasks_ok {t : Task} {names : List Text} {tasks : List Task}
    (h : t.sectionsTasks names = .ok tasks) :
    ∀ name ∈ names, t.SectionWellFormed name ∧
      ∀ items entries, t.get? name = some (.list items) → .record entries ∈ items → ⟨entries⟩ ∈ tasks := by
  induction names generalizing tasks with
  | nil => simp
  | cons first names ih =>
    simp only [sectionsTasks, bind, Except.bind, pure, Except.pure] at h
    split at h
    · contradiction
    · rename_i own hown
      split at h
      · contradiction
      · rename_i more hmore
        cases h
        obtain ⟨hwell, hinside⟩ := sectionTasks_ok hown
        intro name hname
        rcases List.mem_cons.mp hname with rfl | hname
        · exact ⟨hwell, fun items entries hi he => List.mem_append_left _ (hinside items entries hi he)⟩
        · obtain ⟨hwell', hinside'⟩ := ih hmore name hname
          exact ⟨hwell', fun items entries hi he => List.mem_append_right _ (hinside' items entries hi he)⟩

/-- A task whose include can be read has a well-formed one, or none. -/
theorem includeWellFormed_of_included {t : Task} {keys : List Text} {target : Option Text}
    (h : t.included keys = .ok target) : t.IncludeWellFormed keys := by
  induction keys with
  | nil => simp [IncludeWellFormed]
  | cons key rest ih =>
    intro found v hfound hv
    unfold included at h
    split at h
    · rename_i hnone
      have hhas : t.has key = false := by simp [has, hnone]
      rw [List.find?_cons_of_neg (by simp [hhas])] at hfound
      exact ih h found v hfound hv
    · rename_i w hw
      have hhas : t.has key = true := by simp [has, hw]
      rw [List.find?_cons_of_pos hhas, Option.some.injEq] at hfound
      subst hfound
      rw [hw, Option.some.injEq] at hv
      subst hv
      split at h
      · rename_i text htext
        unfold includeTarget? at htext
        split at htext
        · exact Or.inl ⟨_, rfl⟩
        · rename_i entries
          split at htext
          · rename_i file hfile
            exact Or.inr ⟨entries, file, rfl, hfile⟩
          · contradiction
        · contradiction
      · contradiction

/-- Opening a block at the front reaches every task except the block itself. -/
theorem Within.open {t u : Task} {rest nested : List Task} (h : t.block = .ok nested)
    (hu : Within (t :: rest) u) : u = t ∨ Within (rest ++ nested) u := by
  induction hu with
  | top hmem =>
    rcases List.mem_cons.mp hmem with rfl | hmem
    · exact Or.inl rfl
    · exact Or.inr (.top (List.mem_append_left _ hmem))
  | inner _ hblock hname hitems hentries ih =>
    right
    rcases ih with rfl | ih
    · exact .top (List.mem_append_right _ ((sectionsTasks_ok h _ hname).2 _ _ hitems hentries))
    · exact .inner ih hblock hname hitems hentries

/-- Leaving out a task that is no block leaves out no other task. -/
theorem Within.skip {t u : Task} {rest : List Task} (hb : t.isBlock = false)
    (hu : Within (t :: rest) u) : u = t ∨ Within rest u := by
  induction hu with
  | top hmem =>
    rcases List.mem_cons.mp hmem with rfl | hmem
    · exact Or.inl rfl
    · exact Or.inr (.top hmem)
  | inner _ hblock hname hitems hentries ih =>
    right
    rcases ih with rfl | ih
    · rw [hb] at hblock
      contradiction
    · exact .inner ih hblock hname hitems hentries

/-- A list that starts with a plain task is well formed when the task's include and the rest are. -/
theorem WellFormed.cons_plain {keys : List Text} {t : Task} {rest : List Task} {target : Option Text}
    (hb : t.isBlock = false) (h : t.included keys = .ok target) (hrest : WellFormed keys rest) :
    WellFormed keys (t :: rest) := by
  intro u hu
  rcases hu.skip hb with rfl | hu
  · exact ⟨fun hblock => by rw [hb] at hblock; contradiction,
      fun _ => includeWellFormed_of_included h⟩
  · exact hrest u hu

/-- A list that starts with a block is well formed when the work list after it is. -/
theorem WellFormed.cons_block {keys : List Text} {t : Task} {rest nested : List Task}
    (hb : t.isBlock = true) (h : t.block = .ok nested) (hrest : WellFormed keys (rest ++ nested)) :
    WellFormed keys (t :: rest) := by
  intro u hu
  rcases hu.open h with rfl | hu
  · exact ⟨fun _ name hname => (sectionsTasks_ok h name hname).1,
      fun hplain => by rw [hb] at hplain; contradiction⟩
  · exact hrest u hu

/-- A scan without a fault has seen well-formed tasks only. -/
theorem wellFormed_of_scanFrom {keys : List Text} {index : ℕ} {tasks : List Task}
    (h : (scanFrom keys index tasks).fault = none) : WellFormed keys tasks := by
  fun_induction scanFrom keys index tasks with
  | case1 index =>
    intro t ht
    -- Nothing is within an empty list, so no task can be at fault.
    have hempty : ∀ u, ¬ Within [] u := by
      intro u hu
      induction hu with
      | top hmem => simp at hmem
      | inner _ _ _ _ _ ih => exact ih
    exact absurd ht (hempty t)
  | case2 index t rest hb fault hblock => simp at h
  | case3 index t rest hb nested hblock _ ih => exact .cons_block hb hblock (ih h)
  | case4 index t rest hb _ fault hinc => simp at h
  | case5 index t rest hb _ hinc ih => exact .cons_plain (by simpa using hb) hinc (ih h)
  | case6 index t rest hb _ target hinc ih => exact .cons_plain (by simpa using hb) hinc (ih h)

end Task

end RoleGraph
