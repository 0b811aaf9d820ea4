import RoleGraph.Task

/-!
# The includes of a task file

A file is scanned from a work list: the tasks inside a block are added at its end, so every task of
one nesting level comes before those of the next. The scan finds the includes in that order and
stops at the first faulty task, which is named by its position in the work list. It ends because
the tasks inside a block have fewer parts than the block.
-/

namespace RoleGraph

namespace Task

mutual

/-- The number of parts of a value. -/
def weight : Yaml.Value → Nat
  | .scalar _ => 1
  | .list items => 1 + itemsWeight items
  | .record entries => 1 + recordWeight entries
  | .dict _ => 1

/-- The number of parts of some items. -/
def itemsWeight : List Yaml.Value → Nat
  | [] => 0
  | v :: rest => weight v + itemsWeight rest

/-- The number of parts of some entries. -/
def recordWeight : List (Text × Yaml.Value) → Nat
  | [] => 0
  | (_, v) :: rest => weight v + recordWeight rest

end

/-- The number of parts of a work list. -/
def queueWeight : List Task → Nat
  | [] => 0
  | t :: rest => 1 + recordWeight t.entries + queueWeight rest

/-- The number of parts of the sections with the given names. -/
def sectionsWeight (entries : List (Text × Yaml.Value)) : List Text → Nat
  | [] => 0
  | name :: rest => (entries.lookup name).elim 0 weight + sectionsWeight entries rest

theorem queueWeight_append (xs ys : List Task) :
    queueWeight (xs ++ ys) = queueWeight xs + queueWeight ys := by
  induction xs with
  | nil => simp [queueWeight]
  | cons x xs ih => simp only [List.cons_append, queueWeight, ih]; omega

/-- Tasks have as many parts as the items they were made of. -/
theorem queueWeight_ofItems {items : List Yaml.Value} {i : Nat} {tasks : List Task}
    (h : ofItems i items = .ok tasks) : queueWeight tasks = itemsWeight items := by
  induction items generalizing i tasks with
  | nil => cases h; rfl
  | cons v rest ih =>
    cases v with
    | record entries =>
      simp only [ofItems, bind, Except.bind, pure, Except.pure] at h
      split at h
      · contradiction
      · cases h
        rename_i more hmore
        simp only [queueWeight, itemsWeight, weight, ih hmore]
    | scalar s => cases h
    | list items => cases h
    | dict entries => cases h

/-- Sections with a name that a record starts with have no more parts than its first value and the
same sections of the rest. -/
theorem sectionsWeight_cons_of_notMem {k : Text} {v : Yaml.Value}
    {entries : List (Text × Yaml.Value)} {names : List Text} (h : k ∉ names) :
    sectionsWeight ((k, v) :: entries) names = sectionsWeight entries names := by
  induction names with
  | nil => rfl
  | cons n names ih =>
    have hn : n ≠ k := fun e => h (by simp [e])
    have hrest : k ∉ names := fun e => h (by simp [e])
    have hb : (n == k) = false := by simpa using hn
    simp only [sectionsWeight, List.lookup_cons, hb, ih hrest]

theorem sectionsWeight_cons_le {k : Text} {v : Yaml.Value} {entries : List (Text × Yaml.Value)}
    {names : List Text} (h : names.Nodup) :
    sectionsWeight ((k, v) :: entries) names ≤ weight v + sectionsWeight entries names := by
  induction names with
  | nil => simp [sectionsWeight]
  | cons n names ih =>
    obtain ⟨hn, hrest⟩ := List.nodup_cons.1 h
    by_cases hk : n = k
    · subst hk
      simp only [sectionsWeight, List.lookup_cons, beq_self_eq_true, Option.elim_some,
        sectionsWeight_cons_of_notMem hn]
      omega
    · have hb : (n == k) = false := by simpa using hk
      have := ih hrest
      simp only [sectionsWeight, List.lookup_cons, hb]
      omega

/-- Different sections of a record together have no more parts than the record. -/
theorem sectionsWeight_le (entries : List (Text × Yaml.Value)) {names : List Text}
    (h : names.Nodup) : sectionsWeight entries names ≤ recordWeight entries := by
  induction entries with
  | nil =>
    have : ∀ ns : List Text, sectionsWeight [] ns = 0 := by
      intro ns
      induction ns with
      | nil => rfl
      | cons n ns ih => simp [sectionsWeight, ih]
    simp [this]
  | cons e entries ih =>
    obtain ⟨k, v⟩ := e
    have := @sectionsWeight_cons_le k v entries _ h
    simp only [recordWeight]
    omega

/-- The tasks of a section have no more parts than the section. -/
theorem queueWeight_sectionTasks {t : Task} {name : Text} {tasks : List Task}
    (h : t.sectionTasks name = .ok tasks) :
    queueWeight tasks ≤ (t.entries.lookup name).elim 0 weight := by
  unfold sectionTasks get? Yaml.getEntry? at h
  split at h
  · cases h; simp [queueWeight]
  · cases h; simp [queueWeight]
  · rename_i v _ hv
    rw [hv]
    split at h
    · rename_i more hmore
      cases h
      unfold ofValue at hmore
      split at hmore
      · rename_i items
        have := queueWeight_ofItems hmore
        simp only [Option.elim_some, weight]
        omega
      · cases hmore
    · cases h

/-- The tasks of some sections have no more parts than the sections. -/
theorem queueWeight_sectionsTasks {t : Task} {names : List Text} {tasks : List Task}
    (h : t.sectionsTasks names = .ok tasks) : queueWeight tasks ≤ sectionsWeight t.entries names := by
  induction names generalizing tasks with
  | nil => cases h; simp [queueWeight]
  | cons n names ih =>
    simp only [sectionsTasks, bind, Except.bind, pure, Except.pure] at h
    split at h
    · contradiction
    · rename_i first hfirst
      split at h
      · contradiction
      · rename_i more hmore
        cases h
        have h₁ := queueWeight_sectionTasks hfirst
        have h₂ := ih hmore
        simp only [queueWeight_append, sectionsWeight]
        omega

/-- The tasks inside a block have no more parts than the block has below its top. -/
theorem queueWeight_block {t : Task} {tasks : List Task} (h : t.block = .ok tasks) :
    queueWeight tasks ≤ recordWeight t.entries :=
  Nat.le_trans (queueWeight_sectionsTasks h) (sectionsWeight_le _ (by decide))

/-- A faulty task with its position in the work list. -/
structure ScanFault where
  index : Nat
  fault : TaskFault
  deriving DecidableEq, Repr

/-- What a scan finds: the included files in order, and the fault that ended it, if any. -/
structure Scanned where
  targets : List Text := []
  fault : Option ScanFault := none
  deriving DecidableEq, Repr

/-- Add an include at the front. -/
def Scanned.push (target : Text) (s : Scanned) : Scanned := { s with targets := target :: s.targets }

/-- Scan a work list whose first task has the given position. -/
def scanFrom (keys : List Text) (index : Nat) : List Task → Scanned
  | [] => {}
  | t :: rest =>
    if t.isBlock then
      match h : t.block with
      | .error fault => { fault := some ⟨index, fault⟩ }
      | .ok nested =>
        have : queueWeight (rest ++ nested) < queueWeight (t :: rest) := by
          have := queueWeight_block h
          simp only [queueWeight_append, queueWeight]
          omega
        scanFrom keys (index + 1) (rest ++ nested)
    else
      have : queueWeight rest < queueWeight (t :: rest) := by
        simp only [queueWeight]
        omega
      match t.included keys with
      | .error fault => { fault := some ⟨index, fault⟩ }
      | .ok none => scanFrom keys (index + 1) rest
      | .ok (some target) => (scanFrom keys (index + 1) rest).push target
termination_by tasks => queueWeight tasks

/-- Scan the tasks of a file. -/
def scan (keys : List Text) (tasks : List Task) : Scanned := scanFrom keys 0 tasks

end Task

end RoleGraph
