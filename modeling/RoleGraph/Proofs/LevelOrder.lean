import Mathlib.Data.List.Count
import RoleGraph.Proofs.TaskIncludes

/-!
# Tasks in document order and level by level

The tasks of a file have depths: its own tasks have depth zero, and those inside a block one more
than the block. The outline lists all of them in document order, each block before what is inside it,
section by section. The level order lists the tasks of depth zero first, then those of depth one, and
so on.

Both lists have the same tasks, and at each depth in the same order. Since the level order goes from
depth to depth, it is the outline sorted by depth without changing the order within a depth.
-/

namespace RoleGraph

namespace Task

/-- A record as a task. -/
def ofRecord? : Yaml.Value → Option Task
  | .record entries => some ⟨entries⟩
  | _ => none

/-- The tasks of a section that is a list. -/
def inSection (t : Task) (name : Text) : List Task :=
  match t.get? name with
  | some (.list items) => items.filterMap ofRecord?
  | _ => []

/-- The tasks right inside a block, section by section. -/
def inside (t : Task) : List Task := if t.isBlock then sections.flatMap t.inSection else []

/-- The items of a list have at least as many parts as the tasks among them. -/
theorem queueWeight_filterMap_ofRecord? (items : List Yaml.Value) :
    queueWeight (items.filterMap ofRecord?) ≤ itemsWeight items := by
  induction items with
  | nil => simp [queueWeight]
  | cons v rest ih =>
    cases v with
    | record entries => simp only [List.filterMap_cons, ofRecord?, queueWeight, itemsWeight, weight]; omega
    | scalar s => simp only [List.filterMap_cons, ofRecord?, itemsWeight]; omega
    | list items => simp only [List.filterMap_cons, ofRecord?, itemsWeight]; omega
    | dict entries => simp only [List.filterMap_cons, ofRecord?, itemsWeight]; omega

/-- Sections have at least as many parts as the tasks in them. -/
theorem queueWeight_inSections (t : Task) (names : List Text) :
    queueWeight (names.flatMap t.inSection) ≤ sectionsWeight t.entries names := by
  induction names with
  | nil => simp [queueWeight]
  | cons name names ih =>
    have hname : queueWeight (t.inSection name) ≤ (t.entries.lookup name).elim 0 weight := by
      unfold inSection get? Yaml.getEntry?
      split
      · rename_i items hitems
        have := queueWeight_filterMap_ofRecord? items
        rw [hitems, Option.elim_some, weight]
        omega
      · simp [queueWeight]
    rw [List.flatMap_cons, queueWeight_append, sectionsWeight]
    omega

/-- A task has more parts than the tasks inside it. -/
theorem queueWeight_inside (t : Task) : queueWeight t.inside ≤ recordWeight t.entries := by
  unfold inside
  split
  · exact Nat.le_trans (queueWeight_inSections t sections) (sectionsWeight_le _ (by decide))
  · simp [queueWeight]

/-- Opening every block of a list takes away at least the tasks of the list. -/
theorem queueWeight_flatMap_inside (tasks : List Task) :
    queueWeight (tasks.flatMap inside) + tasks.length ≤ queueWeight tasks := by
  induction tasks with
  | nil => simp [queueWeight]
  | cons t rest ih =>
    have := queueWeight_inside t
    rw [List.flatMap_cons, queueWeight_append, queueWeight, List.length_cons]
    omega

/-- Opening every block of a list that is not empty leaves fewer parts. -/
theorem queueWeight_flatMap_inside_lt (t : Task) (rest : List Task) :
    queueWeight ((t :: rest).flatMap inside) < queueWeight (t :: rest) := by
  have := queueWeight_flatMap_inside (t :: rest)
  rw [List.length_cons] at this
  omega

/-- The tasks inside the first task have fewer parts than the list. -/
theorem queueWeight_inside_lt (t : Task) (rest : List Task) : queueWeight t.inside < queueWeight (t :: rest) := by
  have := queueWeight_inside t
  rw [queueWeight]
  omega

/-- The tasks of a list at any depth in document order, each with its depth. -/
def outline (depth : ℕ) : List Task → List (ℕ × Task)
  | [] => []
  | t :: rest =>
    have := queueWeight_inside_lt t rest
    have := queueWeight_rest_lt t rest
    (depth, t) :: (outline (depth + 1) t.inside ++ outline depth rest)
termination_by tasks => queueWeight tasks

/-- The tasks of a list and those inside them, depth by depth. -/
def levelsFrom (depth : ℕ) : List Task → List (ℕ × Task)
  | [] => []
  | t :: rest =>
    have := queueWeight_flatMap_inside_lt t rest
    (t :: rest).map (Prod.mk depth) ++ levelsFrom (depth + 1) ((t :: rest).flatMap inside)
termination_by tasks => queueWeight tasks

/-- The tasks of a file in level order, each with its depth. -/
def levelOrder (tasks : List Task) : List (ℕ × Task) := levelsFrom 0 tasks

/-- The tasks that are some levels below those of a list, in document order. -/
def atLevel : ℕ → List Task → List Task
  | 0, tasks => tasks
  | k + 1, tasks => atLevel k (tasks.flatMap inside)

/-- The tasks below two lists are those below each of them. -/
theorem atLevel_append (k : ℕ) (xs ys : List Task) :
    atLevel k (xs ++ ys) = atLevel k xs ++ atLevel k ys := by
  induction k generalizing xs ys with
  | zero => rfl
  | succ k ih => rw [atLevel, List.flatMap_append, ih]; rfl

/-- There is nothing below an empty list. -/
theorem atLevel_nil (k : ℕ) : atLevel k [] = [] := by
  induction k with
  | zero => rfl
  | succ k ih => exact ih

/-- Nothing in the outline is above its depth. -/
theorem le_of_mem_outline {depth : ℕ} {tasks : List Task} {x : ℕ × Task} (h : x ∈ outline depth tasks) :
    depth ≤ x.1 := by
  fun_induction outline depth tasks with
  | case1 depth => simp at h
  | case2 depth t rest _ _ ihInside ihRest =>
    rcases List.mem_cons.mp h with rfl | h
    · exact Nat.le_refl _
    · rcases List.mem_append.mp h with h | h
      · exact Nat.le_trans (Nat.le_succ depth) (ihInside h)
      · exact ihRest h

/-- Nothing in the levels from a depth on is above it. -/
theorem le_of_mem_levelsFrom {depth : ℕ} {tasks : List Task} {x : ℕ × Task} (h : x ∈ levelsFrom depth tasks) :
    depth ≤ x.1 := by
  fun_induction levelsFrom depth tasks with
  | case1 depth => simp at h
  | case2 depth t rest _ ih =>
    rcases List.mem_append.mp h with h | h
    · obtain ⟨u, -, rfl⟩ := List.mem_map.mp h
      exact Nat.le_refl _
    · exact Nat.le_trans (Nat.le_succ depth) (ih h)

/-- Nothing stands at a depth above all others. -/
theorem filter_eq_nil_of_lt {depth : ℕ} {order : List (ℕ × Task)} (h : ∀ x ∈ order, depth < x.1) :
    order.filter (·.1 == depth) = [] := by
  rw [List.filter_eq_nil_iff]
  intro x hx
  have := h x hx
  simp only [beq_iff_eq]
  omega

/-- Every task of a level stands at its depth. -/
theorem filter_map_mk (depth depth' : ℕ) (tasks : List Task) :
    (tasks.map (Prod.mk depth)).filter (·.1 == depth') = if depth = depth' then tasks.map (Prod.mk depth) else [] := by
  rw [List.filter_map]
  split_ifs with h
  · rw [List.filter_eq_self.mpr (by simp [h])]
  · rw [List.filter_eq_nil_iff.mpr (by simp [h])]
    rfl

/-- One depth of the outline is one level, in its order. -/
theorem filter_outline (depth k : ℕ) (tasks : List Task) :
    (outline depth tasks).filter (·.1 == depth + k) = (atLevel k tasks).map (Prod.mk (depth + k)) := by
  fun_induction outline depth tasks generalizing k with
  | case1 depth => rw [atLevel_nil]; rfl
  | case2 depth t rest _ _ ihInside ihRest =>
    rw [List.filter_cons, List.filter_append, ihRest]
    cases k with
    | zero =>
      rw [filter_eq_nil_of_lt fun x hx => le_of_mem_outline hx, if_pos (by simp)]
      rfl
    | succ k =>
      have hdepth : depth + (k + 1) = depth + 1 + k := by omega
      rw [if_neg (by simp), hdepth, ihInside, ← List.map_append]
      rw [← hdepth, atLevel, atLevel, List.flatMap_cons, atLevel_append]

/-- One depth of the levels is one level. -/
theorem filter_levelsFrom (depth k : ℕ) (tasks : List Task) :
    (levelsFrom depth tasks).filter (·.1 == depth + k) = (atLevel k tasks).map (Prod.mk (depth + k)) := by
  fun_induction levelsFrom depth tasks generalizing k with
  | case1 depth => rw [atLevel_nil]; rfl
  | case2 depth t rest _ ih =>
    rw [List.filter_append, filter_map_mk]
    cases k with
    | zero =>
      rw [if_pos (Nat.add_zero depth).symm, filter_eq_nil_of_lt fun x hx => le_of_mem_levelsFrom hx,
        List.append_nil]
      rfl
    | succ k =>
      have hdepth : depth + (k + 1) = depth + 1 + k := by omega
      rw [if_neg (by omega), List.nil_append, hdepth, ih]
      rfl

/-- At every depth the level order is the document order. -/
theorem filter_levelOrder (depth : ℕ) (tasks : List Task) :
    (levelOrder tasks).filter (·.1 == depth) = (outline 0 tasks).filter (·.1 == depth) := by
  have hlevels := filter_levelsFrom 0 depth tasks
  rw [← filter_outline 0 depth tasks, Nat.zero_add] at hlevels
  exact hlevels

/-- The level order loses no task and repeats none. -/
theorem levelOrder_perm (tasks : List Task) : (levelOrder tasks).Perm (outline 0 tasks) := by
  classical
  rw [List.perm_iff_count]
  intro x
  have hdepth : ∀ l : List (ℕ × Task), l.count x = (l.filter (·.1 == x.1)).count x := by
    intro l
    rw [List.count_filter (by simp)]
  rw [hdepth, filter_levelOrder, ← hdepth]

/-- The level order goes from depth to depth. -/
theorem levelsFrom_pairwise (depth : ℕ) (tasks : List Task) :
    (levelsFrom depth tasks).Pairwise fun a b => a.1 ≤ b.1 := by
  fun_induction levelsFrom depth tasks with
  | case1 depth => exact List.Pairwise.nil
  | case2 depth t rest _ ih =>
    rw [List.pairwise_append]
    refine ⟨?_, ih, ?_⟩
    · rw [List.pairwise_map]
      exact List.pairwise_of_forall fun _ _ => Nat.le_refl _
    · intro a ha b hb
      obtain ⟨u, -, rfl⟩ := List.mem_map.mp ha
      exact Nat.le_trans (Nat.le_succ depth) (le_of_mem_levelsFrom hb)

end Task

end RoleGraph
