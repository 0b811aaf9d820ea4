import RoleGraph.Proofs.History
import RoleGraph.Proofs.VisitOrder

/-!
# Exactly the playbooks of a directory

The candidates below a root are told without a walk: a regular file with an accepted name, of which
neither the path from the root nor that of a directory on the way is excluded, and no directory on the
way is the one with the roles. The absolute paths of all places differ, and a local roles directory has
the path of a place for its plain form, however it is written. What is found has one strict order, which
no order of visits or listings shows in, and so neither does an analysis of the candidates in turn.
-/

namespace RoleGraph

namespace Analyzer

/-- What decides about the entries below a root. -/
def rules (a : Analyzer) (s : Site) (root : Text) (lines : List Text) : Candidates.Rules where
  base := s.pathOf (Location.normalize s.cwd root)
  rolesDir := Location.plain a.options.rolesDir
  matcher := a.matcher
  ignored := Ignore.ofLines lines

variable {s s' : Site}

/-- On a site that lists its directories in other orders the same candidates are found. -/
theorem candidates_relisted (a : Analyzer) (h : s.Relisted s') (hs : s.tree.Named) (root : Text) :
    a.candidates s' root = a.candidates s root := by
  have hfind := Candidates.find_relisted h hs a.options.rolesDir a.matcher a.excludes (Location.normalize s.cwd root)
  unfold candidates
  rw [h.cwd]
  generalize Candidates.find s _ _ _ _ = x at hfind
  generalize Candidates.find s' _ _ _ _ = y at hfind
  cases hfind with
  | error e => rfl
  | ok hfound =>
    dsimp only
    rw [hfound.1, hfound.2]

/-- On a site that lists its directories in other orders a directory is analyzed alike. -/
theorem directory_relisted (a : Analyzer) (h : s.Relisted s') (hs : s.tree.Named) (root : Text) :
    a.directory s' root = a.directory s root := by
  have hplaybook : ∀ l, a.playbook s' l = a.playbook s l := by
    intro l
    rw [playbook, playbook, h.library_eq hs, h.cwd]
  unfold directory
  rw [candidates_relisted a h hs root, funext hplaybook]

/-- What decides about the entries below a root is told by two places. -/
theorem rooted_rules (hcwd : Location.isRooted s.cwd) {rolesDir : Text}
    (hroles : Location.scheme rolesDir = Location.localScheme) (c : Choices) (root : Text) (lines : List Text) :
    ((ofChoices s rolesDir c).rules s root lines).Rooted
      (Location.segments (s.pathOf (Location.normalize s.cwd root))) (s.rolesPlace rolesDir) := by
  obtain ⟨place, hplace, hpath⟩ := Site.pathOf_eq_pathAt hcwd (Location.normalize s.cwd root)
  rw [hpath, Location.segments_pathAt hplace]
  exact ⟨hplace, hpath, fun _ hne hnames => Site.pathAt_eq_plain_normalize hcwd hroles hnames hne⟩

/-- Below a directory that is walked, the path of a file is that of a file of the site. -/
theorem exists_file_of_isCandidate (hs : s.Proper) {root : Text} {t : Tree} (hroot : s.walkRoot root = .ok t)
    (hdirectory : s.isDirectory (s.pathOf root)) {matcher : Matcher} {excluded : Text → Bool} {roles dirs : List Text}
    {name : Text} (h : Candidates.IsCandidate matcher excluded (Location.segments (s.pathOf root)) roles t dirs name) :
    ∃ content,
      s.find? (Site.pathAt (Location.segments (s.pathOf root) ++ (dirs ++ [name]))) = some (.file content) := by
  obtain ⟨content, hfile⟩ := h.isFile
  have hfind := Site.find?_of_walkRoot hroot hdirectory
  rw [Site.find?] at hfind
  obtain ⟨ht, hbase⟩ := hs.named.find? hfind
  have hnames := List.forall_mem_append.mpr ⟨hbase, (ht.find? hfile).2⟩
  refine ⟨content, ?_⟩
  rw [Site.find?, Location.segments_pathAt hnames, Tree.find?_append, hfind]
  exact hfile

/-- The candidates are exactly the files that are to be analyzed, in strict byte order, in whatever order
the entries are visited and the directories are listed. -/
theorem candidates_exact (hs : s.Proper) {rolesDir : Text}
    (hroles : Location.scheme rolesDir = Location.localScheme) (c : Choices) (root : Text) :
    let a := ofChoices s rolesDir c
    let start := Location.normalize s.cwd root
    let base := Location.segments (s.pathOf start)
    (∀ lines t, Candidates.ignoreLines s a.excludes start = .ok lines → s.walkRoot start = .ok t →
      ∃ paths,
        (∀ st, ((a.candidates s root).run st).1 = .ok paths ∧
          ((a.candidates s root).run st).2.progress = st.progress) ∧
        paths.Pairwise (· < ·) ∧
        (∀ path, path ∈ paths ↔ ∃ dirs name, path = Site.pathAt (base ++ (dirs ++ [name])) ∧
          Candidates.IsCandidate a.matcher (Ignore.covers (Ignore.ofLines lines)) base (s.rolesPlace rolesDir) t
            dirs name) ∧
        (s.isDirectory (s.pathOf start) → ∀ path ∈ paths, ∃ content, s.find? path = some (.file content)) ∧
        (∃ found, Candidates.Visits (a.rules s root lines) t.children found) ∧
        ∀ found, Candidates.Visits (a.rules s root lines) t.children found → Candidates.sorted found = paths) ∧
    ∀ s', s.Relisted s' → (ofChoices s' rolesDir c).candidates s' root = a.candidates s root ∧
      (ofChoices s' rolesDir c).directory s' root = a.directory s root := by
  intro a start base
  refine ⟨fun lines t hlines hroot => ?_, fun s' hs' => ?_⟩
  · obtain ⟨cs, rfl, hnamed⟩ := hs.walkRoot hroot
    have hrooted : (a.rules s root lines).Rooted base (s.rolesPlace rolesDir) :=
      rooted_rules hs.cwd_rooted hroles c root lines
    have hfind : Candidates.find s a.options.rolesDir a.matcher a.excludes start =
        .ok (Candidates.walkAll (a.rules s root lines) [] cs) := by
      unfold Candidates.find
      rw [hlines]
      dsimp only [bind, Except.bind]
      rw [hroot]
      rfl
    have hmem := hrooted.mem_sorted_iff hnamed
    refine ⟨_, fun st => ?_, ?_, hmem, fun hdirectory path h => ?_, Candidates.exists_visits _ cs,
      fun found hvisits => Text.sort_eq_of_perm (hvisits.perm.filterMap _)⟩
    · have hmirrors := mirrors_candidates a s st hfind
      exact ⟨hmirrors.result, hmirrors.progress⟩
    · cases hnamed with
      | directory hdistinct hnames hcs =>
        exact Text.sort_strict (Candidates.nodup_walkAll hrooted [] hdistinct hcs hnames (by simp))
    · obtain ⟨dirs, name, rfl, hcandidate⟩ := (hmem path).mp h
      exact exists_file_of_isCandidate hs hroot hdirectory hcandidate
  · have hsame : ofChoices s' rolesDir c = a := by
      unfold ofChoices ofRolesDir
      rw [hs'.cwd]
      rfl
    rw [hsame]
    exact ⟨candidates_relisted a hs' hs.named root, directory_relisted a hs' hs.named root⟩

/-- A playbook, the roles, some variables and a text. -/
def sampleEntries : List (Text × Tree) :=
  [("site.yml", .file []), ("roles", .directory [("r.yml", .file [])]), ("vars", .directory [("v.yml", .file [])]),
    ("notes.txt", .file [])]

/-- A site with one directory, from which it is analyzed. -/
def sampleSite (entries : List (Text × Tree)) : Site := { tree := .directory [("w", .directory entries)], cwd := "/w" }

/-- The playbook is a candidate, and reversing the listing changes nothing. -/
theorem candidates_exact_reversed :
    ((sampleSite sampleEntries).Proper ∧ Location.scheme "roles" = Location.localScheme ∧
      (sampleSite sampleEntries).Relisted (sampleSite sampleEntries.reverse)) ∧
    (∃ paths, (∀ st, (((ofChoices (sampleSite sampleEntries) "roles" { excludes := ["vars/"] }).candidates
        (sampleSite sampleEntries) ".").run st).1 = .ok paths) ∧
      paths.Pairwise (· < ·) ∧ Text.ofString "/w/site.yml" ∈ paths) ∧
    (ofChoices (sampleSite sampleEntries.reverse) "roles" { excludes := ["vars/"] }).directory
        (sampleSite sampleEntries.reverse) "." =
      (ofChoices (sampleSite sampleEntries) "roles" { excludes := ["vars/"] }).directory
        (sampleSite sampleEntries) "." := by
  have hproper : (sampleSite sampleEntries).Proper := by
    have hdirectory : ∀ name, Location.IsName name → (Tree.directory [(name, .file [])]).Named := fun name hname =>
      .directory (List.nodup_singleton _) (List.forall_mem_singleton.mpr hname)
        (List.forall_mem_singleton.mpr (.file _))
    have hentries : (Tree.directory sampleEntries).Named := by
      refine .directory (by decide) (by decide) ?_
      simp only [sampleEntries, List.forall_mem_cons]
      exact ⟨.file _, hdirectory _ (by decide), hdirectory _ (by decide), .file _, by simp⟩
    exact ⟨rfl, rfl, .directory (by decide) (by decide) (List.forall_mem_singleton.mpr hentries)⟩
  have hrelisted : (sampleSite sampleEntries).Relisted (sampleSite sampleEntries.reverse) := by
    have hfile : ∀ name, Tree.Relisted (.directory [(name, .file [])]) (.directory [(name, .file [])]) := fun _ =>
      .directory (.cons (.file _) .nil) (.refl _)
    have hsame : Tree.EntriesRelisted sampleEntries sampleEntries :=
      .cons (.file _) (.cons (hfile _) (.cons (hfile _) (.cons (.file _) .nil)))
    exact ⟨.directory (.cons (.directory hsame (List.reverse_perm _).symm) .nil) (.refl _), rfl, rfl⟩
  have hroles : Location.scheme "roles" = Location.localScheme := by decide
  obtain ⟨hexact, hsites⟩ := candidates_exact hproper hroles { excludes := ["vars/"] } "."
  have hlines : Candidates.ignoreLines (sampleSite sampleEntries) ["vars/"] (Location.normalize "/w" ".") =
      .ok ["vars/"] := by decide +kernel
  have hplace : Location.segments ((sampleSite sampleEntries).pathOf (Location.normalize "/w" ".")) = ["w"] := by
    decide +kernel
  have hlocal : (Location.normalize "/w" ".").isEmpty = false ∧
      Location.scheme (Location.normalize "/w" ".") = Location.localScheme := by decide +kernel
  have hroot : (sampleSite sampleEntries).walkRoot (Location.normalize "/w" ".") = .ok (.directory sampleEntries) := by
    rw [Site.walkRoot, hlocal.1, if_neg Bool.false_ne_true]
    dsimp only
    rw [if_pos hlocal.2, Site.find?, hplace]
    rfl
  obtain ⟨paths, hrun, hordered, hmem, -⟩ := hexact ["vars/"] (.directory sampleEntries) hlines hroot
  have hsite : Text.ofString "/w/site.yml" ∈ paths := by
    refine (hmem _).mpr ⟨[], "site.yml", ?_, ⟨_, rfl⟩, by decide +kernel, by decide +kernel, ?_⟩
    · rw [List.nil_append]
      decide +kernel
    · exact fun d hd hfront => absurd (List.prefix_nil.mp hfront) hd
  exact ⟨⟨hproper, hroles, hrelisted⟩, ⟨paths, fun st => (hrun st).1, hordered, hsite⟩, (hsites _ hrelisted).2⟩

end Analyzer

end RoleGraph
