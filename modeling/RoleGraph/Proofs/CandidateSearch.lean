import Mathlib.Data.List.Sort
import RoleGraph.Analysis.Candidates
import RoleGraph.Proofs.ListingOrder

/-!
# The search for playbook candidates

A walk goes down a tree and takes a file when it enters every directory on the way. Which directories it
enters is told by their paths from the root alone, so what is found below an entry is found by induction
on the tree: a file is taken itself, and a directory that is entered has its own walk. No file is found
twice, since the entries of a directory have different names, and a tree that lists its directories in
other orders has the same files to find. Sorting then leaves one list.
-/

namespace RoleGraph

open Text (slash)

namespace Text

variable {ts us : List Text}

/-- Sorted texts are in byte order. -/
theorem sort_ordered (ts : List Text) : (sort ts).Pairwise (· ≤ ·) := by
  have hsorted := @List.pairwise_mergeSort _ le
    (fun a b c hab hbc => decide_eq_true (List.le_trans (of_decide_eq_true hab) (of_decide_eq_true hbc)))
    (fun a b => by simpa [le] using List.le_total a b) ts
  exact hsorted.imp fun h => of_decide_eq_true h

/-- Texts that differ are sorted into strict order. -/
theorem sort_strict (h : ts.Nodup) : (sort ts).Pairwise (· < ·) :=
  (sort_ordered ts).imp₂ (fun _ _ hle hne => Std.lt_of_le_of_ne hle hne)
    ((List.mergeSort_perm ts le).nodup_iff.mpr h)

/-- The order of texts is lost when they are sorted. -/
theorem sort_eq_of_perm (h : ts.Perm us) : sort ts = sort us :=
  ((List.mergeSort_perm ts le).trans (h.trans (List.mergeSort_perm us le).symm)).eq_of_pairwise
    (fun _ _ _ _ => List.le_antisymm) (sort_ordered ts) (sort_ordered us)

end Text

namespace Candidates

/-- The path of a place, seen from the root of a walk. -/
def relativePath (place : List Text) : Text := Text.joinWith [slash] place

/-- A directory that a walk enters: it is not ignored, and it is not the roles directory. -/
structure Rules.Enters (r : Rules) (place : List Text) : Prop where
  included : r.ignores (relativePath place) true = false
  ne_rolesDir : r.locate (relativePath place) ≠ r.rolesDir

/-- A file at a place below a directory is taken: the walk enters each directory on the way, the file is
not ignored, and its name is accepted. -/
def Rules.Takes (r : Rules) (above : List Text) : List Text → Prop
  | [] => False
  | [name] => r.ignores (relativePath (above ++ [name])) false = false ∧ r.matcher.accepts name = true
  | name :: next :: rest => r.Enters (above ++ [name]) ∧ r.Takes (above ++ [name]) (next :: rest)

/-- The candidates among what was found. -/
def paths (found : List Found) : List Text :=
  found.filterMap fun
    | .candidate l => some l
    | .rolesDir _ => none

/-- The candidates are sorted. -/
theorem sorted_eq (found : List Found) : sorted found = Text.sort (paths found) := rfl

/-- A path is that of a candidate. -/
theorem mem_paths {found : List Found} {l : Text} : l ∈ paths found ↔ Found.candidate l ∈ found := by
  rw [paths, List.mem_filterMap]
  constructor
  · rintro ⟨_ | _, hmem, hl⟩
    · rwa [Option.some.inj hl] at hmem
    · cases hl
  · exact fun h => ⟨_, h, rfl⟩

variable {r : Rules} {above : List Text} {name l : Text}

/-- A file below a directory is taken when the directory is entered and the file is taken from there. -/
theorem takes_cons {place : List Text} (hne : place ≠ []) :
    r.Takes above (name :: place) ↔ r.Enters (above ++ [name]) ∧ r.Takes (above ++ [name]) place := by
  obtain ⟨next, rest, rfl⟩ := List.exists_cons_of_ne_nil hne
  rw [Rules.Takes]

/-- The path of an entry below a directory. -/
theorem below_relativePath (habove : ∀ n ∈ above, Location.IsName n) (hname : Location.IsName name) :
    below (relativePath above) name = relativePath (above ++ [name]) :=
  Location.join_joinWith habove hname

/-- Walking a file. -/
theorem walk_file (habove : ∀ n ∈ above, Location.IsName n) (hname : Location.IsName name) (content : Text) :
    .candidate l ∈ walk r (relativePath above) name (.file content) ↔
      r.Takes above [name] ∧ l = r.locate (relativePath (above ++ [name])) := by
  rw [walk, below_relativePath habove hname, Rules.Takes]
  cases r.ignores (relativePath (above ++ [name])) false <;> cases r.matcher.accepts name <;> simp

/-- Walking a directory. -/
theorem walk_directory (habove : ∀ n ∈ above, Location.IsName n) (hname : Location.IsName name)
    (cs : List (Text × Tree)) :
    .candidate l ∈ walk r (relativePath above) name (.directory cs) ↔
      r.Enters (above ++ [name]) ∧ .candidate l ∈ walkAll r (relativePath (above ++ [name])) cs := by
  rw [walk, below_relativePath habove hname]
  split_ifs with hignored hroles
  · exact iff_of_false List.not_mem_nil fun h => absurd (h.1.included) (by simp [hignored])
  · exact iff_of_false (by simp) fun h => h.1.ne_rolesDir hroles
  · exact ⟨fun h => ⟨⟨by simpa using hignored, hroles⟩, h⟩, fun h => h.2⟩

mutual

/-- A walk of an entry finds the files below it that are taken. -/
theorem mem_walk (above : List Text) {name : Text} {t : Tree} (ht : t.Named)
    (habove : ∀ n ∈ above, Location.IsName n) (hname : Location.IsName name) :
    .candidate l ∈ walk r (relativePath above) name t ↔ ∃ place content, t.find? place = some (.file content) ∧
      r.Takes above (name :: place) ∧ l = r.locate (relativePath (above ++ name :: place)) := by
  cases t with
  | file content =>
    rw [walk_file habove hname]
    constructor
    · rintro ⟨htakes, hl⟩
      exact ⟨[], content, rfl, htakes, hl⟩
    · rintro ⟨_ | ⟨next, rest⟩, found, hfind, htakes, hl⟩
      · exact ⟨htakes, hl⟩
      · cases hfind
  | directory cs =>
    cases ht with
    | directory hdistinct hnames hcs =>
      have hinside : ∀ n ∈ above ++ [name], Location.IsName n :=
        List.forall_mem_append.mpr ⟨habove, List.forall_mem_singleton.mpr hname⟩
      rw [walk_directory habove hname, mem_walkAll (above ++ [name]) hcs hnames hinside]
      constructor
      · rintro ⟨henters, next, t, place, content, hmem, hfind, htakes, hl⟩
        exact ⟨next :: place, content, (Tree.find?_cons_eq_some hdistinct).mpr ⟨t, hmem, hfind⟩,
          (takes_cons (List.cons_ne_nil _ _)).mpr ⟨henters, htakes⟩, by rw [hl, ← List.append_cons]⟩
      · rintro ⟨_ | ⟨next, place⟩, content, hfind, htakes, hl⟩
        · cases hfind
        · obtain ⟨t, hmem, hfind⟩ := (Tree.find?_cons_eq_some hdistinct).mp hfind
          obtain ⟨henters, htakes⟩ := (takes_cons (List.cons_ne_nil _ _)).mp htakes
          exact ⟨henters, next, t, place, content, hmem, hfind, htakes, by rw [hl, ← List.append_cons]⟩

/-- A walk of the entries of a directory finds the files below them that are taken. -/
theorem mem_walkAll (above : List Text) {cs : List (Text × Tree)} (hcs : ∀ c ∈ cs, c.2.Named)
    (hnames : ∀ c ∈ cs, Location.IsName c.1) (habove : ∀ n ∈ above, Location.IsName n) :
    .candidate l ∈ walkAll r (relativePath above) cs ↔ ∃ name t place content, (name, t) ∈ cs ∧
      t.find? place = some (.file content) ∧ r.Takes above (name :: place) ∧
      l = r.locate (relativePath (above ++ name :: place)) := by
  cases cs with
  | nil => simp [walkAll]
  | cons c rest =>
    obtain ⟨name, t⟩ := c
    obtain ⟨ht, hrest⟩ := List.forall_mem_cons.mp hcs
    obtain ⟨hname, hothers⟩ := List.forall_mem_cons.mp hnames
    rw [walkAll, List.mem_append, mem_walk above ht habove hname, mem_walkAll above hrest hothers habove]
    constructor
    · rintro (⟨place, content, hfound⟩ | ⟨other, u, place, content, hmem, hfound⟩)
      · exact ⟨name, t, place, content, List.mem_cons_self, hfound⟩
      · exact ⟨other, u, place, content, List.mem_cons_of_mem _ hmem, hfound⟩
    · rintro ⟨other, u, place, content, hmem, hfound⟩
      rcases List.mem_cons.mp hmem with heq | hmem
      · cases heq
        exact Or.inl ⟨place, content, hfound⟩
      · exact Or.inr ⟨other, u, place, content, hmem, hfound⟩

end

/-- The rules for a walk of the directory at a place, with the roles at another one. -/
structure Rules.Rooted (r : Rules) (root roles : List Text) : Prop where
  names : ∀ n ∈ root, Location.IsName n
  base_eq : r.base = Site.pathAt root
  /-- The roles directory is told by its path. -/
  rolesDir_iff : ∀ place, place ≠ [] → (∀ n ∈ place, Location.IsName n) →
    (Site.pathAt place = r.rolesDir ↔ place = roles)

variable {root roles : List Text}

/-- Where the rules place a path below the root. -/
theorem Rules.Rooted.locate_eq (h : r.Rooted root roles) {place : List Text}
    (hplace : ∀ n ∈ place, Location.IsName n) (hne : place ≠ []) :
    r.locate (relativePath place) = Site.pathAt (root ++ place) := by
  have hall : ∀ n ∈ root ++ place, Location.IsName n := List.forall_mem_append.mpr ⟨h.names, hplace⟩
  rw [Rules.locate, h.base_eq, relativePath, Location.append_pathAt h.names hplace hne, Location.plain,
    Location.isAddress_pathAt hall, Bool.not_false, if_pos rfl, Location.clean_pathAt hall]

/-- Paths that the rules place alike lead to one place. -/
theorem Rules.Rooted.locate_inj (h : r.Rooted root roles) {place place' : List Text}
    (hplace : ∀ n ∈ place, Location.IsName n) (hplace' : ∀ n ∈ place', Location.IsName n) (hne : place ≠ [])
    (hne' : place' ≠ []) (hsame : r.locate (relativePath place) = r.locate (relativePath place')) :
    place = place' := by
  have hall := List.forall_mem_append.mpr ⟨h.names, hplace⟩
  have hall' := List.forall_mem_append.mpr ⟨h.names, hplace'⟩
  rw [h.locate_eq hplace hne, h.locate_eq hplace' hne', Location.pathAt_inj hall hall'] at hsame
  exact List.append_cancel_left hsame

mutual

/-- No file is found twice below an entry. -/
theorem nodup_walk (h : r.Rooted root roles) (above : List Text) {name : Text} {t : Tree} (ht : t.Named)
    (habove : ∀ n ∈ above, Location.IsName n) (hname : Location.IsName name) :
    (paths (walk r (relativePath above) name t)).Nodup := by
  cases t with
  | file content =>
    rw [walk]
    split_ifs
    · exact List.nodup_nil
    · exact List.nodup_singleton _
  | directory cs =>
    cases ht with
    | directory hdistinct hnames hcs =>
      have hinside : ∀ n ∈ above ++ [name], Location.IsName n :=
        List.forall_mem_append.mpr ⟨habove, List.forall_mem_singleton.mpr hname⟩
      rw [walk, below_relativePath habove hname]
      split_ifs
      · exact List.nodup_nil
      · exact List.nodup_nil
      · exact nodup_walkAll h (above ++ [name]) hdistinct hcs hnames hinside

/-- No file is found twice in a directory. -/
theorem nodup_walkAll (h : r.Rooted root roles) (above : List Text) {cs : List (Text × Tree)}
    (hdistinct : (cs.map Prod.fst).Nodup) (hcs : ∀ c ∈ cs, c.2.Named) (hnames : ∀ c ∈ cs, Location.IsName c.1)
    (habove : ∀ n ∈ above, Location.IsName n) : (paths (walkAll r (relativePath above) cs)).Nodup := by
  cases cs with
  | nil => exact List.nodup_nil
  | cons c rest =>
    obtain ⟨name, t⟩ := c
    obtain ⟨ht, hrest⟩ := List.forall_mem_cons.mp hcs
    obtain ⟨hname, hothers⟩ := List.forall_mem_cons.mp hnames
    obtain ⟨hfresh, hdistinct⟩ := List.nodup_cons.mp hdistinct
    rw [walkAll, paths, List.filterMap_append]
    refine List.nodup_append.mpr ⟨nodup_walk h above ht habove hname,
      nodup_walkAll h above hdistinct hrest hothers habove, ?_⟩
    -- A path that is found twice would lead through two entries of one name.
    rintro l hl _ hl' rfl
    obtain ⟨place, content, hfind, -, hpath⟩ := (mem_walk above ht habove hname).mp (mem_paths.mp hl)
    obtain ⟨other, u, place', content', hmem, hfind', -, hpath'⟩ :=
      (mem_walkAll above hrest hothers habove).mp (mem_paths.mp hl')
    have hplace : ∀ n ∈ above ++ name :: place, Location.IsName n :=
      List.forall_mem_append.mpr ⟨habove, List.forall_mem_cons.mpr ⟨hname, (ht.find? hfind).2⟩⟩
    have hplace' : ∀ n ∈ above ++ other :: place', Location.IsName n :=
      List.forall_mem_append.mpr ⟨habove, List.forall_mem_cons.mpr ⟨hothers _ hmem, ((hrest _ hmem).find? hfind').2⟩⟩
    have hsame := h.locate_inj hplace hplace' (by simp) (by simp) (hpath.symm.trans hpath')
    have hheads := (List.cons.inj (List.append_cancel_left hsame)).1
    exact hfresh (List.mem_map.mpr ⟨_, hmem, hheads.symm⟩)

end

/-- A file is taken exactly when its path is not ignored, its name is accepted and every directory on
the way is entered. -/
theorem takes_iff {dirs : List Text} : r.Takes above (dirs ++ [name]) ↔
    r.ignores (relativePath (above ++ (dirs ++ [name]))) false = false ∧ r.matcher.accepts name = true ∧
    ∀ d, d ≠ [] → d <+: dirs → r.Enters (above ++ d) := by
  induction dirs generalizing above with
  | nil =>
    have hnone : ∀ d, d ≠ [] → d <+: [] → r.Enters (above ++ d) := fun d hd hfront =>
      absurd (List.prefix_nil.mp hfront) hd
    rw [List.nil_append, Rules.Takes, and_iff_left hnone]
  | cons first dirs ih =>
    rw [List.cons_append, takes_cons (by simp), ih, ← List.append_cons]
    constructor
    · rintro ⟨henters, hincluded, haccepted, hdirs⟩
      refine ⟨hincluded, haccepted, ?_⟩
      rintro (_ | ⟨n, d⟩) hd hfront
      · contradiction
      · obtain ⟨rfl, hrest⟩ := List.cons_prefix_cons.mp hfront
        by_cases hnil : d = []
        · rwa [hnil]
        · rw [List.append_cons]
          exact hdirs d hnil hrest
    · rintro ⟨hincluded, haccepted, hdirs⟩
      refine ⟨hdirs [first] (List.cons_ne_nil _ _) (List.prefix_append [first] dirs), hincluded, haccepted,
        fun d _ hfront => ?_⟩
      rw [← List.append_cons]
      exact hdirs (first :: d) (List.cons_ne_nil _ _) (List.cons_prefix_cons.mpr ⟨rfl, hfront⟩)

/-- A file below a root that is to be analyzed as a playbook. Its name is accepted, its path from the root
is not excluded, and no directory on the way is excluded, in either spelling, or holds the roles. -/
structure IsCandidate (matcher : Matcher) (excluded : Text → Bool) (root roles : List Text) (t : Tree)
    (dirs : List Text) (name : Text) : Prop where
  isFile : ∃ content, t.find? (dirs ++ [name]) = some (.file content)
  accepted : matcher.accepts name = true
  included : excluded (relativePath (dirs ++ [name])) = false
  entered : ∀ d, d ≠ [] → d <+: dirs → excluded (relativePath d) = false ∧
    excluded (relativePath d ++ [slash]) = false ∧ root ++ d ≠ roles

/-- A directory is entered when neither spelling of its path is excluded and it does not hold the
roles. -/
theorem Rules.Rooted.enters_iff (h : r.Rooted root roles) {d : List Text} (hd : ∀ n ∈ d, Location.IsName n)
    (hne : d ≠ []) :
    r.Enters d ↔ Ignore.covers r.ignored (relativePath d) = false ∧
      Ignore.covers r.ignored (relativePath d ++ [slash]) = false ∧ root ++ d ≠ roles := by
  have hplace : r.locate (relativePath d) = r.rolesDir ↔ root ++ d = roles := by
    rw [h.locate_eq hd hne]
    exact h.rolesDir_iff _ (List.append_ne_nil_of_right_ne_nil _ hne) (List.forall_mem_append.mpr ⟨h.names, hd⟩)
  have hignores : r.ignores (relativePath d) true = false ↔ Ignore.covers r.ignored (relativePath d) = false ∧
      Ignore.covers r.ignored (relativePath d ++ [slash]) = false := by
    rw [Rules.ignores, Bool.or_eq_false_iff, Bool.true_and]
  constructor
  · intro henters
    obtain ⟨hplain, hslash⟩ := hignores.mp henters.included
    exact ⟨hplain, hslash, mt hplace.mpr henters.ne_rolesDir⟩
  · rintro ⟨hplain, hslash, hother⟩
    exact ⟨hignores.mpr ⟨hplain, hslash⟩, mt hplace.mp hother⟩

/-- A file of the tree is taken exactly when it is to be analyzed. -/
theorem Rules.Rooted.isCandidate_iff (h : r.Rooted root roles) {t : Tree} (ht : t.Named) {dirs : List Text}
    {content : Text} (hfind : t.find? (dirs ++ [name]) = some (.file content)) :
    IsCandidate r.matcher (Ignore.covers r.ignored) root roles t dirs name ↔ r.Takes [] (dirs ++ [name]) := by
  have hfile : r.ignores (relativePath (dirs ++ [name])) false =
      Ignore.covers r.ignored (relativePath (dirs ++ [name])) := by
    rw [Rules.ignores, Bool.false_and, Bool.or_false]
  have hentered : ∀ d, d ≠ [] → d <+: dirs → _ := fun d hd hfront =>
    h.enters_iff (fun n hn => (ht.find? hfind).2 n (List.mem_append_left _ (hfront.subset hn))) hd
  rw [takes_iff, List.nil_append, hfile]
  constructor
  · intro hcandidate
    exact ⟨hcandidate.included, hcandidate.accepted, fun d hd hfront =>
      (hentered d hd hfront).mpr (hcandidate.entered d hd hfront)⟩
  · rintro ⟨hincluded, haccepted, hdirs⟩
    exact ⟨⟨content, hfind⟩, haccepted, hincluded, fun d hd hfront => (hentered d hd hfront).mp (hdirs d hd hfront)⟩

/-- A walk of the root finds exactly the files that are to be analyzed. -/
theorem Rules.Rooted.mem_sorted_iff (h : r.Rooted root roles) {cs : List (Text × Tree)}
    (ht : (Tree.directory cs).Named) (path : Text) :
    path ∈ sorted (walkAll r [] cs) ↔ ∃ dirs name, path = Site.pathAt (root ++ (dirs ++ [name])) ∧
      IsCandidate r.matcher (Ignore.covers r.ignored) root roles (.directory cs) dirs name := by
  cases ht with
  | directory hdistinct hnames hcs =>
    have ht := Tree.Named.directory hdistinct hnames hcs
    rw [sorted_eq, Text.sort, List.mem_mergeSort, mem_paths]
    refine (mem_walkAll [] hcs hnames (by simp)).trans ⟨?_, ?_⟩
    · rintro ⟨first, t, rest, content, hmem, hfind, htakes, hl⟩
      have hfind := (Tree.find?_cons_eq_some hdistinct).mpr ⟨t, hmem, hfind⟩
      obtain ⟨dirs, name, hsplit⟩ := (List.eq_nil_or_concat' (first :: rest)).resolve_left (List.cons_ne_nil _ _)
      rw [List.nil_append, hsplit, h.locate_eq (hsplit ▸ (ht.find? hfind).2) (by simp)] at hl
      rw [hsplit] at hfind htakes
      exact ⟨dirs, name, hl, (h.isCandidate_iff ht hfind).mpr htakes⟩
    · rintro ⟨dirs, name, rfl, hcandidate⟩
      obtain ⟨content, hfind⟩ := hcandidate.isFile
      have htakes := (h.isCandidate_iff ht hfind).mp hcandidate
      have hl := h.locate_eq (ht.find? hfind).2 (by simp)
      obtain ⟨first, rest, hsplit⟩ : ∃ first rest, dirs ++ [name] = first :: rest :=
        List.exists_cons_of_ne_nil (by simp)
      rw [hsplit] at hfind htakes hl ⊢
      obtain ⟨t, hmem, hfind⟩ := (Tree.find?_cons_eq_some hdistinct).mp hfind
      exact ⟨first, t, rest, content, hmem, hfind, htakes, hl.symm⟩

/-- What is found below the entries of a directory is what is found below each. -/
theorem walkAll_eq_flatMap (r : Rules) (parent : Text) (cs : List (Text × Tree)) :
    walkAll r parent cs = cs.flatMap fun c => walk r parent c.1 c.2 := by
  induction cs with
  | nil => rfl
  | cons c rest ih => rw [walkAll, ih, List.flatMap_cons]

/-- The order of the entries of a directory is only the order in which things are found. -/
theorem walkAll_perm (r : Rules) (parent : Text) {cs cs' : List (Text × Tree)} (h : cs.Perm cs') :
    (walkAll r parent cs).Perm (walkAll r parent cs') := by
  rw [walkAll_eq_flatMap, walkAll_eq_flatMap]
  exact h.flatMap_right _

mutual

/-- In whatever order directories are listed, the same is found below an entry. -/
theorem walk_relisted (r : Rules) (parent name : Text) {t t' : Tree} (h : t.Relisted t') :
    (walk r parent name t).Perm (walk r parent name t') := by
  cases h with
  | file content => exact .refl _
  | directory hcs hperm =>
    rw [walk, walk]
    split_ifs
    · exact .refl _
    · exact .refl _
    · exact (walkAll_relisted r (below parent name) hcs).trans (walkAll_perm r (below parent name) hperm)

/-- In whatever order directories are listed, the same is found below the entries of a directory. -/
theorem walkAll_relisted (r : Rules) (parent : Text) {cs mid : List (Text × Tree)} (h : Tree.EntriesRelisted cs mid) :
    (walkAll r parent cs).Perm (walkAll r parent mid) := by
  cases h with
  | nil => exact .refl _
  | cons h hrest =>
    rw [walkAll, walkAll]
    exact (walk_relisted r parent _ h).append (walkAll_relisted r parent hrest)

end

mutual

/-- Only one roles directory is left out of a walk of an entry. -/
theorem rolesDir_of_mem_walk {parent name : Text} {t : Tree} (h : .rolesDir l ∈ walk r parent name t) :
    l = r.rolesDir := by
  cases t with
  | file content =>
    rw [walk] at h
    split_ifs at h
    · cases h
    · cases List.mem_singleton.mp h
  | directory cs =>
    rw [walk] at h
    split_ifs at h with hignored hroles
    · cases h
    · cases List.mem_singleton.mp h
      exact hroles
    · exact rolesDir_of_mem_walkAll h

/-- Only one roles directory is left out of a walk of some entries. -/
theorem rolesDir_of_mem_walkAll {parent : Text} {cs : List (Text × Tree)} (h : .rolesDir l ∈ walkAll r parent cs) :
    l = r.rolesDir := by
  cases cs with
  | nil => cases h
  | cons c rest =>
    obtain ⟨name, t⟩ := c
    rw [walkAll, List.mem_append] at h
    rcases h with h | h
    · exact rolesDir_of_mem_walk h
    · exact rolesDir_of_mem_walkAll h

end

/-- The roles directory is left out as often as it is found. -/
theorem skipped_walkAll (r : Rules) (parent : Text) (cs : List (Text × Tree)) :
    skipped (walkAll r parent cs) = List.replicate (skipped (walkAll r parent cs)).length r.rolesDir := by
  refine List.eq_replicate_of_mem fun l hl => ?_
  obtain ⟨_ | _, hmem, hfound⟩ := List.mem_filterMap.mp hl
  · cases hfound
  · cases hfound
    exact rolesDir_of_mem_walkAll hmem

variable {s s' : Site}

/-- What is found on a site does not depend on the order of its listings, but for its order. -/
theorem find_relisted (h : s.Relisted s') (hs : s.tree.Named) (rolesDir : Text) (matcher : Matcher)
    (excludes : List Text) (root : Text) :
    SameOutcome (fun found found' => sorted found' = sorted found ∧ skipped found' = skipped found)
      (find s rolesDir matcher excludes root) (find s' rolesDir matcher excludes root) := by
  have hlines : ignoreLines s' excludes root = ignoreLines s excludes root := by
    rw [ignoreLines, ignoreLines, h.holds_eq hs, h.read_eq hs]
  have hroot := h.walkRoot hs root
  unfold find
  rw [hlines, h.pathOf_eq]
  cases ignoreLines s excludes root with
  | error e => exact .error e
  | ok lines =>
    generalize s.walkRoot root = x at hroot
    generalize s'.walkRoot root = y at hroot
    cases hroot with
    | error e => exact .error _
    | @ok t t' htree =>
      refine .ok ?_
      cases htree with
      | file content => exact ⟨rfl, rfl⟩
      | @directory cs mid cs' hcs hperm =>
        have hfound : ∀ r : Rules, (walkAll r [] cs').Perm (walkAll r [] cs) := fun r =>
          ((walkAll_relisted r [] hcs).trans (walkAll_perm r [] hperm)).symm
        refine ⟨Text.sort_eq_of_perm ((hfound _).filterMap _), ?_⟩
        dsimp only [Tree.children]
        rw [skipped_walkAll, skipped_walkAll _ _ cs]
        congr 1
        exact ((hfound _).filterMap _).length_eq

end Candidates

end RoleGraph
