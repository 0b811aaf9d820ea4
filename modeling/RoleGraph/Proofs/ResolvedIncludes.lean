import Mathlib.Data.Option.Basic
import RoleGraph.Proofs.Correspondence
import RoleGraph.Proofs.IncludePaths

/-!
# Dynamic includes mean the files that they resolve to

A dynamic include may be written as the file that it resolves to, in any task of any file: as the value
of the include or as the file name of its long form, and in the sections of blocks at any depth. The
scan walks both versions of a file in step, since whether a task is a block, which tasks are inside it
and what is wrong with it do not depend on the file names. So it finds includes that resolve alike, and
a role is followed in the same way over both trees.
-/

namespace RoleGraph

open Yaml (Value)

/-- A value that names a file under some variables: it resolves to the file, and the file has no mark
that would make it dynamic. -/
structure Scope.Names (s : Scope) (value file : Text) : Prop where
  resolves : s.resolve value = .ok file
  static : Text.has templateMark file = false

/-- Whether a value names a file is found by resolving it. -/
instance (s : Scope) (value file : Text) : Decidable (s.Names value file) :=
  decidable_of_iff ((s.resolve value).toOption = some file ∧ Text.has templateMark file = false)
    ⟨fun ⟨h, h'⟩ => ⟨Analysis.resolve_toOption_eq_some.mp h, h'⟩,
      fun h => ⟨Analysis.resolve_toOption_eq_some.mpr h.resolves, h.static⟩⟩

/-- A static include is resolved to itself. -/
theorem Scope.resolve_static {s : Scope} {value : Text} (h : Text.has templateMark value = false) :
    s.resolve value = .ok value := by
  simp only [resolve, h]
  rfl

/-- A value and the file that it names are resolved alike. -/
theorem Scope.Names.resolve_eq {s : Scope} {value file : Text} (h : s.Names value file) :
    s.resolve file = s.resolve value := by
  rw [resolve_static h.static, h.resolves]

/-- An include written with the file that it names, in the short form or in the long one. -/
inductive IncludeWritten (s : Scope) : Value → Value → Prop where
  | short {value file : Text} (h : s.Names value file) :
      IncludeWritten s (.scalar (.str value)) (.scalar (.str file))
  | long (front back : List (Text × Value)) {value file : Text}
      (hfront : Yaml.getEntry? Task.fileKey front = none) (h : s.Names value file) :
      IncludeWritten s (.record (front ++ (Task.fileKey, .scalar (.str value)) :: back))
        (.record (front ++ (Task.fileKey, .scalar (.str file)) :: back))

mutual

/-- The value under a key of a task with some includes written as files: the include of the task itself,
or the tasks of a section when the task is a block. -/
inductive ValueWritten (keys : List Text) (s : Scope) : (block : Bool) → Text → Value → Value → Prop where
  | same {block : Bool} {key : Text} (v : Value) : ValueWritten keys s block key v v
  | target {block : Bool} {key : Text} {v w : Value} (hkey : key ∈ keys) (h : IncludeWritten s v w) :
      ValueWritten keys s block key v w
  | inner {name : Text} {items items' : List Value} (hname : name ∈ Task.sections)
      (h : ItemsWritten keys s items items') : ValueWritten keys s true name (.list items) (.list items')

/-- The entries of a task with some of its includes written as files. -/
inductive EntriesWritten (keys : List Text) (s : Scope) :
    (block : Bool) → List (Text × Value) → List (Text × Value) → Prop where
  | nil {block : Bool} : EntriesWritten keys s block [] []
  | cons {block : Bool} {key : Text} {v w : Value} {rest rest' : List (Text × Value)}
      (h : ValueWritten keys s block key v w) (hrest : EntriesWritten keys s block rest rest') :
      EntriesWritten keys s block ((key, v) :: rest) ((key, w) :: rest')

/-- The items of a section with some includes of its tasks written as files. -/
inductive ItemsWritten (keys : List Text) (s : Scope) : List Value → List Value → Prop where
  | nil : ItemsWritten keys s [] []
  | same {rest rest' : List Value} (v : Value) (hrest : ItemsWritten keys s rest rest') :
      ItemsWritten keys s (v :: rest) (v :: rest')
  | task {entries entries' : List (Text × Value)} {rest rest' : List Value}
      (h : EntriesWritten keys s (Task.isBlock ⟨entries⟩) entries entries')
      (hrest : ItemsWritten keys s rest rest') :
      ItemsWritten keys s (.record entries :: rest) (.record entries' :: rest')

end

/-- A task with some of its includes written as files. -/
def TaskWritten (keys : List Text) (s : Scope) (t t' : Task) : Prop :=
  EntriesWritten keys s t.isBlock t.entries t'.entries

/-- A text that reads as the same tasks, with some of their includes written as files, or that is no
task file for the same reason. -/
def TextWritten (keys : List Text) (s : Scope) (text text' : Text) : Prop :=
  SameOutcome (List.Forall₂ (TaskWritten keys s)) (Task.ofText text) (Task.ofText text')

mutual

/-- A tree of the same files, with some includes of their tasks written as files. -/
inductive TreeWritten (keys : List Text) (s : Scope) : Tree → Tree → Prop where
  | file {text text' : Text} (h : TextWritten keys s text text') : TreeWritten keys s (.file text) (.file text')
  | directory {cs cs' : List (Text × Tree)} (h : ChildrenWritten keys s cs cs') :
      TreeWritten keys s (.directory cs) (.directory cs')

/-- The entries of a directory, with some includes of their tasks written as files. -/
inductive ChildrenWritten (keys : List Text) (s : Scope) : List (Text × Tree) → List (Text × Tree) → Prop where
  | nil : ChildrenWritten keys s [] []
  | cons {name : Text} {t t' : Tree} {rest rest' : List (Text × Tree)} (h : TreeWritten keys s t t')
      (hrest : ChildrenWritten keys s rest rest') : ChildrenWritten keys s ((name, t) :: rest) ((name, t') :: rest')

end

variable {keys : List Text} {s : Scope}

/-- An include has a file in both versions, and the two are resolved alike. -/
theorem IncludeWritten.targets {v w : Value} (h : IncludeWritten s v w) : ∃ value file,
    Task.includeTarget? v = some value ∧ Task.includeTarget? w = some file ∧ s.resolve file = s.resolve value := by
  cases h with
  | short h => exact ⟨_, _, rfl, rfl, h.resolve_eq⟩
  | long front back hfront h =>
    have hfile : ∀ u : Value, Yaml.getEntry? Task.fileKey (front ++ (Task.fileKey, u) :: back) = some u := by
      intro u
      rw [Yaml.getEntry?, List.lookup_append, ← Yaml.getEntry?, hfront, Option.none_or, List.lookup_cons_self]
    refine ⟨_, _, ?_, ?_, h.resolve_eq⟩
    · rw [Task.includeTarget?, hfile]
    · rw [Task.includeTarget?, hfile]

/-- Nothing needs to be written otherwise. -/
theorem EntriesWritten.refl (block : Bool) (entries : List (Text × Value)) :
    EntriesWritten keys s block entries entries := by
  induction entries with
  | nil => exact .nil
  | cons e rest ih => exact .cons (.same e.2) ih

/-- A task is itself with no include written otherwise. -/
theorem TaskWritten.refl (t : Task) : TaskWritten keys s t t := EntriesWritten.refl _ _

/-- A text is itself with no include written otherwise. -/
theorem TextWritten.refl (text : Text) : TextWritten keys s text text :=
  SameOutcome.refl (fun _ => List.forall₂_same.mpr fun t _ => TaskWritten.refl t) _

/-- Under each key there is a value in both versions or in none. -/
theorem EntriesWritten.lookup {block : Bool} {entries entries' : List (Text × Value)}
    (h : EntriesWritten keys s block entries entries') (key : Text) :
    Option.Rel (ValueWritten keys s block key) (entries.lookup key) (entries'.lookup key) := by
  induction entries generalizing entries' with
  | nil =>
    cases h
    exact .none
  | cons e rest ih =>
    cases h with
    | cons hvalue hrest =>
      rename_i name _ _ _
      by_cases hkey : key = name
      · subst hkey
        rw [List.lookup_cons_self, List.lookup_cons_self]
        exact .some hvalue
      · have hne : (key == name) = false := by simpa using hkey
        simp only [List.lookup_cons, hne]
        exact ih hrest

namespace TaskWritten

variable {t t' : Task}

/-- Both versions of a task are blocks or none is. -/
theorem isBlock_eq (h : TaskWritten keys s t t') : t'.isBlock = t.isBlock := by
  have hlookup := EntriesWritten.lookup h Task.blockKey
  unfold Task.isBlock Task.has Task.get? Yaml.getEntry?
  generalize t.entries.lookup Task.blockKey = x at hlookup
  generalize t'.entries.lookup Task.blockKey = y at hlookup
  cases hlookup with
  | some _ => rfl
  | none => rfl

end TaskWritten

/-- The items of a section are the tasks of both versions, or one of them is no task. -/
theorem ItemsWritten.ofItems {items items' : List Value} (h : ItemsWritten keys s items items') (index : ℕ) :
    SameOutcome (List.Forall₂ (TaskWritten keys s)) (Task.ofItems index items) (Task.ofItems index items') := by
  induction items generalizing items' index with
  | nil =>
    cases h
    exact .ok .nil
  | cons v rest ih =>
    have hrecord : ∀ {entries entries' : List (Text × Value)} {rest' : List Value},
        TaskWritten keys s ⟨entries⟩ ⟨entries'⟩ → ItemsWritten keys s rest rest' →
        SameOutcome (List.Forall₂ (TaskWritten keys s)) (Task.ofItems index (.record entries :: rest))
          (Task.ofItems index (.record entries' :: rest')) := by
      intro entries entries' rest' htask hrest
      exact (ih hrest (index + 1)).bind fun _ _ htasks => .ok (.cons htask htasks)
    cases h with
    | same v hrest =>
      cases v with
      | record entries => exact hrecord (TaskWritten.refl _) hrest
      | scalar value => exact .error _
      | list inner => exact .error _
      | dict entries => exact .error _
    | task h hrest => exact hrecord h hrest

namespace TaskWritten

variable {t t' : Task}

/-- A section of a block has the same tasks in both versions, or the same fault. -/
theorem sectionTasks (h : TaskWritten keys s t t') (hblock : t.isBlock = true) (name : Text) :
    SameOutcome (List.Forall₂ (TaskWritten keys s)) (t.sectionTasks name) (t'.sectionTasks name) := by
  have hlookup := EntriesWritten.lookup h name
  rw [hblock] at hlookup
  unfold Task.sectionTasks Task.get? Yaml.getEntry?
  generalize t.entries.lookup name = x at hlookup
  generalize t'.entries.lookup name = y at hlookup
  have hrefl : ∀ tasks : List Task, List.Forall₂ (TaskWritten keys s) tasks tasks :=
    fun tasks => List.forall₂_same.mpr fun u _ => TaskWritten.refl u
  cases hlookup with
  | none => exact SameOutcome.refl hrefl _
  | some hvalue =>
    cases hvalue with
    | same v => exact SameOutcome.refl hrefl _
    | target hkey hinclude =>
      -- An include is no list of tasks, and the fault names its type alone.
      cases hinclude with
      | short _ => exact .error _
      | long _ _ _ _ => exact .error _
    | inner hname hitems =>
      dsimp only [Task.ofValue]
      have houtcome := hitems.ofItems 0
      generalize Task.ofItems 0 _ = a at houtcome
      generalize Task.ofItems 0 _ = b at houtcome
      cases houtcome with
      | error fault => exact .error _
      | ok htasks => exact .ok htasks

/-- A block has the same tasks inside in both versions, or the same fault. -/
theorem block (h : TaskWritten keys s t t') (hblock : t.isBlock = true) :
    SameOutcome (List.Forall₂ (TaskWritten keys s)) t.block t'.block := by
  have hsections : ∀ names, SameOutcome (List.Forall₂ (TaskWritten keys s)) (t.sectionsTasks names)
      (t'.sectionsTasks names) := by
    intro names
    induction names with
    | nil => exact .ok .nil
    | cons name rest ih =>
      exact (h.sectionTasks hblock name).bind fun _ _ hfirst =>
        ih.bind fun _ _ hmore => .ok (List.rel_append hfirst hmore)
  exact hsections Task.sections

/-- A task that is no block includes files that are resolved alike, or has the same fault. -/
theorem included (h : TaskWritten keys s t t') (hblock : t.isBlock = false) (ks : List Text) :
    SameOutcome (Option.Rel fun value file => s.resolve file = s.resolve value) (t.included ks)
      (t'.included ks) := by
  induction ks with
  | nil => exact .ok .none
  | cons key rest ih =>
    have hlookup := EntriesWritten.lookup h key
    rw [hblock] at hlookup
    unfold Task.included Task.get? Yaml.getEntry?
    generalize t.entries.lookup key = x at hlookup
    generalize t'.entries.lookup key = y at hlookup
    cases hlookup with
    | none => exact ih
    | some hvalue =>
      cases hvalue with
      | same v =>
        refine SameOutcome.refl (fun target => ?_) _
        cases target with
        | none => exact .none
        | some value => exact .some rfl
      | target hkey hinclude =>
        obtain ⟨value, file, hvalue, hfile, hresolve⟩ := hinclude.targets
        simp only [hvalue, hfile]
        exact .ok (.some hresolve)

end TaskWritten

/-- Two versions of a work list are scanned to includes that are resolved alike, and to one fault. -/
theorem scanFrom_written {tasks tasks' : List Task} (h : List.Forall₂ (TaskWritten keys s) tasks tasks')
    (index : ℕ) :
    (Task.scanFrom keys index tasks').fault = (Task.scanFrom keys index tasks).fault ∧
      List.Forall₂ (fun value file => s.resolve file = s.resolve value)
        (Task.scanFrom keys index tasks).targets (Task.scanFrom keys index tasks').targets := by
  fun_induction Task.scanFrom keys index tasks generalizing tasks' with
  | case1 index =>
    cases h
    rw [Task.scanFrom]
    exact ⟨rfl, .nil⟩
  | case2 index t rest hblock fault hfault =>
    cases h with
    | cons ht hrest =>
      have houtcome := ht.block hblock
      rw [Task.scanFrom_cons, ht.isBlock_eq, if_pos hblock]
      rw [hfault] at houtcome
      generalize Task.block _ = inside at houtcome ⊢
      cases houtcome
      exact ⟨rfl, .nil⟩
  | case3 index t rest hblock nested hnested _ ih =>
    cases h with
    | cons ht hrest =>
      have houtcome := ht.block hblock
      rw [Task.scanFrom_cons, ht.isBlock_eq, if_pos hblock]
      rw [hnested] at houtcome
      generalize Task.block _ = inside at houtcome ⊢
      cases houtcome with
      | ok hinside => exact ih (List.rel_append hrest hinside)
  | case4 index t rest hblock _ fault hfault =>
    cases h with
    | cons ht hrest =>
      have houtcome := ht.included (by simpa using hblock) keys
      rw [Task.scanFrom_cons, ht.isBlock_eq, if_neg hblock]
      rw [hfault] at houtcome
      generalize Task.included _ keys = found at houtcome ⊢
      cases houtcome
      exact ⟨rfl, .nil⟩
  | case5 index t rest hblock _ hnone ih =>
    cases h with
    | cons ht hrest =>
      have houtcome := ht.included (by simpa using hblock) keys
      rw [Task.scanFrom_cons, ht.isBlock_eq, if_neg hblock]
      rw [hnone] at houtcome
      generalize Task.included _ keys = found at houtcome ⊢
      cases houtcome with
      | ok hfound =>
        cases hfound
        exact ih hrest
  | case6 index t rest hblock _ target htarget ih =>
    cases h with
    | cons ht hrest =>
      have houtcome := ht.included (by simpa using hblock) keys
      rw [Task.scanFrom_cons, ht.isBlock_eq, if_neg hblock]
      rw [htarget] at houtcome
      generalize Task.included _ keys = found at houtcome ⊢
      cases houtcome with
      | ok hfound =>
        cases hfound with
        | some hresolve => exact ⟨(ih hrest).1, .cons hresolve (ih hrest).2⟩

/-- Two versions of a file read alike under the variables that resolve its includes. -/
theorem sameScan_written {tasks tasks' : List Task} (h : List.Forall₂ (TaskWritten keys s) tasks tasks') :
    Analysis.SameScan keys s s id tasks tasks' := by
  obtain ⟨hfault, htargets⟩ := scanFrom_written h 0
  refine ⟨hfault, htargets.imp fun value file hresolve => ?_⟩
  rw [hresolve]
  cases s.resolve value with
  | error e => rfl
  | ok target => rfl

/-- At every place stands something in both trees or in none. -/
theorem TreeWritten.find? {t t' : Tree} (h : TreeWritten keys s t t') (place : List Text) :
    Option.Rel (TreeWritten keys s) (t.find? place) (t'.find? place) := by
  induction place generalizing t t' with
  | nil => exact .some h
  | cons name rest ih =>
    have hchildren : ∀ {cs cs' : List (Text × Tree)}, ChildrenWritten keys s cs cs' →
        Option.Rel (TreeWritten keys s) (cs.lookup name) (cs'.lookup name) := by
      intro cs
      induction cs with
      | nil =>
        intro cs' hcs
        cases hcs
        exact .none
      | cons c cs ihcs =>
        intro cs' hcs
        cases hcs with
        | cons hchild hrest =>
          rename_i n _ _ _
          by_cases hn : name = n
          · subst hn
            rw [List.lookup_cons_self, List.lookup_cons_self]
            exact .some hchild
          · have hne : (name == n) = false := by simpa using hn
            simp only [List.lookup_cons, hne]
            exact ihcs hrest
    have hlookup : Option.Rel (TreeWritten keys s) (t.children.lookup name) (t'.children.lookup name) := by
      cases h with
      | file _ => exact .none
      | directory hcs => exact hchildren hcs
    rw [Tree.find?, Tree.find?]
    generalize t.children.lookup name = x at hlookup
    generalize t'.children.lookup name = y at hlookup
    cases hlookup with
    | none => exact .none
    | some hchild => exact ih hchild

namespace Site

variable {a b : Site}

/-- At every path stands something on both sites or on none. -/
theorem find?_written (htree : TreeWritten keys s a.tree b.tree) (path : Text) :
    Option.Rel (TreeWritten keys s) (a.find? path) (b.find? path) := htree.find? _

/-- At a location there is something on both sites or on none. -/
theorem holds_written (hcwd : b.cwd = a.cwd) (htree : TreeWritten keys s a.tree b.tree) (location : Text) :
    b.holds location = a.holds location := by
  have hpath : b.pathOf location = a.pathOf location := by rw [pathOf, pathOf, hcwd]
  have hfind := find?_written htree (a.pathOf location)
  unfold holds
  rw [hpath]
  generalize a.find? _ = x at hfind
  generalize b.find? _ = y at hfind
  cases hfind with
  | none => rfl
  | some _ => rfl

/-- What can be read on one site can be read on the other one, with some includes written as files. -/
theorem read_written (hcwd : b.cwd = a.cwd) (htree : TreeWritten keys s a.tree b.tree) (location : Text) :
    SameOutcome (TextWritten keys s) (a.read location) (b.read location) := by
  have hpath : b.pathOf location = a.pathOf location := by rw [pathOf, pathOf, hcwd]
  have hfind := find?_written htree (a.pathOf location)
  unfold read
  dsimp only
  rw [hpath]
  generalize a.find? _ = x at hfind
  generalize b.find? _ = y at hfind
  cases hfind with
  | none => exact .error _
  | some htrees =>
    cases htrees with
    | file htext => exact .ok htext
    | directory _ => exact .error _

/-- What loads on one site loads on the other one, with some includes written as files. -/
theorem load_written (hcwd : b.cwd = a.cwd) (htree : TreeWritten keys s a.tree b.tree) (location : Text) :
    SameOutcome (TextWritten keys s) (a.load location) (b.load location) := by
  unfold load
  rw [holds_written hcwd htree]
  split
  · exact .error _
  · exact .error _
  · have hread := read_written hcwd htree location
    generalize a.read location = x at hread
    generalize b.read location = y at hread
    cases hread with
    | error e => exact .error _
    | ok htext => exact .ok htext

/-- Every task file reads alike on both sites. -/
theorem sameFiles_written (hcwd : b.cwd = a.cwd) (htree : TreeWritten keys s a.tree b.tree) :
    Analysis.SameFiles keys s s id a.library b.library where
  holds := holds_written hcwd htree
  tasks location := by
    rw [library_tasks, library_tasks]
    refine (load_written hcwd htree location).bind fun text text' htext => ?_
    unfold TextWritten at htext
    unfold tasksOf
    generalize Task.ofText text = x at htext
    generalize Task.ofText text' = y at htext
    cases htext with
    | error fault => exact .error _
    | ok htasks => exact .ok (sameScan_written htasks)

end Site

namespace Analysis

/-- Dynamic includes mean the files that they resolve to. When some includes of a tree are written as
the files that they resolve to under the variables of a play, a role is followed under these variables
with the same result, to the same graph and with the same memo, from every state. -/
theorem followRole_resolved_includes {a b : Site} (opts : Options) (caller : Node) (role : Text) (s : Scope)
    (hcwd : b.cwd = a.cwd) (htree : TreeWritten opts.includeKeys s a.tree b.tree) (st : State) :
    let run₁ := (followRole a.library opts caller s role).run st
    let run₂ := (followRole b.library opts caller s role).run st
    run₂.1 = run₁.1 ∧ run₂.2.graph = run₁.2.graph ∧ run₂.2.expanded = run₁.2.expanded := by
  intro run₁ run₂
  have hstart : st.progress = st.progress.renamed (exchange s s) := by
    rw [exchange_self, Progress.renamed_refl]
  obtain ⟨hresult, hprogress⟩ := followRole_corresponds (Site.sameFiles_written hcwd htree) caller role hstart
  rw [exchange_self, Progress.renamed_refl] at hprogress
  have hsame : ∀ r : Except RoleError Unit, r.mapError (RoleError.mapUnresolved id) = r := by
    intro r
    cases r with
    | ok done => rfl
    | error e => exact congrArg Except.error (RoleError.mapUnresolved_id e)
  rw [hsame] at hresult
  exact ⟨hresult, congrArg Progress.graph hprogress, congrArg Progress.expanded hprogress⟩

/-- A main file with one include in a block and another one in the long form. -/
def twoFormsText (first second : Text) : Text :=
  "- block:\n    - include_tasks: '" ++ first ++ "'\n- include_tasks:\n    file: '" ++ second ++ "'\n"

/-- The tasks of this main file. -/
def twoFormsTasks (first second : Text) : List Task :=
  [⟨[("block", .list [.record [("include_tasks", .scalar (.str first))]])]⟩,
    ⟨[("include_tasks", .record [("file", .scalar (.str second))])]⟩]

/-- A role with this main file and the two files that it includes. -/
def twoFormsSite (first second : Text) : Site := .ofRole []
  [("main.yml", twoFormsText first second), ("a.yml", "- debug: msg=x\n"), ("b.yml", "- debug: msg=y\n")]

/-- Tasks are compared by their entries. -/
instance decidableEqTask : DecidableEq Task := fun t u =>
  decidable_of_iff (t.entries = u.entries) ⟨fun h => congrArg Task.mk h, congrArg Task.entries⟩

/-- A text is read as some tasks when these are found in it. -/
theorem ofText_of_toOption {text : Text} {tasks : List Task} (h : (Task.ofText text).toOption = some tasks) :
    Task.ofText text = .ok tasks := by
  generalize Task.ofText text = x at h
  cases x with
  | error fault => contradiction
  | ok made => exact congrArg Except.ok (Option.some.inj h)

/-- The main file may be written with the files that its includes name. -/
theorem twoFormsTasks_written {first second file file' : Text} (h : s.Names first file) (h' : s.Names second file') :
    List.Forall₂ (TaskWritten Task.includeKeys s) (twoFormsTasks first second) (twoFormsTasks file file') := by
  refine .cons ?_ (.cons ?_ .nil)
  · have hblock : ∀ v, Task.isBlock ⟨[("block", v)]⟩ = true := fun _ => rfl
    have hplain : ∀ v, Task.isBlock ⟨[("include_tasks", v)]⟩ = false := fun _ => rfl
    rw [TaskWritten, hblock]
    refine .cons (.inner (by decide) (.task ?_ .nil)) .nil
    rw [hplain]
    exact .cons (.target (by decide) (.short h)) .nil
  · exact .cons (.target (by decide) (.long [] [] rfl h')) .nil

/-- The role may be written with the files that the includes of its main file name. -/
theorem twoFormsSite_written {first second file file' : Text} (h : s.Names first file) (h' : s.Names second file')
    (hread : (Task.ofText (twoFormsText first second)).toOption = some (twoFormsTasks first second))
    (hread' : (Task.ofText (twoFormsText file file')).toOption = some (twoFormsTasks file file')) :
    TreeWritten Task.includeKeys s (twoFormsSite first second).tree (twoFormsSite file file').tree := by
  have hmain : TextWritten Task.includeKeys s (twoFormsText first second) (twoFormsText file file') := by
    rw [TextWritten, ofText_of_toOption hread, ofText_of_toOption hread']
    exact .ok (twoFormsTasks_written h h')
  -- Only the main file differs.
  refine .directory (.cons (.directory (.cons (.directory (.cons (.directory ?_) .nil)) .nil)) .nil)
  exact .cons (.file hmain) (.cons (.file (TextWritten.refl _)) (.cons (.file (TextWritten.refl _)) .nil))

/-- A role with two dynamic includes, one of them in a block and the other one in the long form, is
followed as the role with the static includes `a.yml` and `b.yml`. -/
theorem followRole_resolved_includes_twoForms :
    let s : Scope := ⟨[("first", .scalar (.str "a.yml")), ("second", .scalar (.str "b.yml"))]⟩
    let a := twoFormsSite "\x7b\x7b first \x7d\x7d" "\x7b\x7b second \x7d\x7d"
    let b := twoFormsSite "a.yml" "b.yml"
    let caller : Node := .playbook "/p.yml"
    let st : State := { graph := Graph.addNode {} caller }
    let run₁ := (followRole a.library Analyzer.ofRole.options caller s "r").run st
    let run₂ := (followRole b.library Analyzer.ofRole.options caller s "r").run st
    run₁.1.isOk = true ∧
      run₁.2.graph.ids = ["playbook/p.yml", "role/r/b.yml", "role/r/main.yml", "role/r/a.yml"] ∧
      run₂.1 = run₁.1 ∧ run₂.2.graph = run₁.2.graph ∧ run₂.2.expanded = run₁.2.expanded := by
  intro s a b caller st run₁ run₂
  obtain ⟨hfirst, hsecond, hdynamic, hstatic, hok, hids⟩ :
      s.Names "\x7b\x7b first \x7d\x7d" "a.yml" ∧ s.Names "\x7b\x7b second \x7d\x7d" "b.yml" ∧
        (Task.ofText (twoFormsText "\x7b\x7b first \x7d\x7d" "\x7b\x7b second \x7d\x7d")).toOption =
          some (twoFormsTasks "\x7b\x7b first \x7d\x7d" "\x7b\x7b second \x7d\x7d") ∧
        (Task.ofText (twoFormsText "a.yml" "b.yml")).toOption = some (twoFormsTasks "a.yml" "b.yml") ∧
        run₁.1.isOk = true ∧
        run₁.2.graph.ids = ["playbook/p.yml", "role/r/b.yml", "role/r/main.yml", "role/r/a.yml"] := by
    decide +kernel
  have hwritten := twoFormsSite_written hfirst hsecond hdynamic hstatic
  refine ⟨hok, hids, ?_⟩
  dsimp only [run₁, run₂]
  exact followRole_resolved_includes (a := a) (b := b) Analyzer.ofRole.options caller "r" s rfl hwritten st

end Analysis

end RoleGraph
