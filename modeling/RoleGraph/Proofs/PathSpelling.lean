import RoleGraph.Proofs.ExactCandidates

/-!
# One place under several spellings

A path is read piece by piece from a place: an empty piece and a `.` stay there, a `..` goes up, and at
the root it stays, and any other piece goes down. Cleaning keeps a stack of the pieces that remain, and
for a rooted path this stack is the place itself, read from its end. So making a local location absolute
writes the path of the place that it names, whatever the spelling. Such a path has no empty piece and is
never read as an address, and behind the scheme of files, with or without a host, it is the path of that
address. A directory with the roles is therefore known again when it is met on a walk.
-/

namespace RoleGraph

open Text (slash)

namespace Location

variable {cwd l p w : Text} {place pieces stack : List Text} {piece : Text}

/-- Where one piece of a path leads from a place. -/
def stepFrom (place : List Text) (piece : Text) : List Text :=
  if piece = [] ∨ piece = here then place
  else if piece = up then place.dropLast
  else place ++ [piece]

/-- Where a path leads from a place, piece by piece. -/
def walkFrom (place : List Text) (p : Text) : List Text := (Text.splitAt slash p).foldl stepFrom place

/-- The place that a local location names for a working directory. -/
def placeOf (cwd l : Text) : List Text := walkFrom (if isRooted l then [] else walkFrom [] cwd) l

/-- A path that starts at the root and is its own cleaned form. -/
structure IsCleanPath (p : Text) : Prop where
  rooted : isRooted p
  clean_eq : clean p = p

/-- An address of a local file: its path behind the scheme of files and a host. -/
def fileAddress (host p : Text) : Text := localScheme ++ (schemeMark ++ (host ++ p))

/-- The ways to write a place: a local path that names it, in any spelling, or its path in an address of
files, without a host or with that of this machine. -/
inductive Spells (cwd : Text) (place : List Text) : Text → Prop
  | path {l : Text} (hne : l ≠ []) (hlocal : isAddress l = false) (h : placeOf cwd l = place) : Spells cwd place l
  | address : Spells cwd place (fileAddress [] (Site.pathAt place))
  | hosted : Spells cwd place (fileAddress localHost (Site.pathAt place))

/-! ## Places and stacks -/

/-- A piece without slashes leads from a place to a place. -/
theorem isName_of_mem_stepFrom (h : ∀ n ∈ place, IsName n) (hpiece : slash ∉ piece) :
    ∀ n ∈ stepFrom place piece, IsName n := by
  unfold stepFrom
  split_ifs with hdrop hup
  · exact h
  · exact fun n hn => h n ((List.dropLast_prefix place).subset hn)
  · obtain ⟨hne, hhere⟩ := not_or.mp hdrop
    exact List.forall_mem_append.mpr ⟨h, List.forall_mem_singleton.mpr ⟨⟨hne, hhere, hpiece⟩, hup⟩⟩

/-- A path leads from a place to a place. -/
theorem isName_of_mem_walkFrom (h : ∀ n ∈ place, IsName n) (p : Text) : ∀ n ∈ walkFrom place p, IsName n := by
  have hpieces : ∀ t ∈ Text.splitAt slash p, slash ∉ t := fun t ht => Text.notMem_of_mem_splitAt ht
  unfold walkFrom
  generalize Text.splitAt slash p = pieces at hpieces
  induction pieces generalizing place with
  | nil => exact h
  | cons t rest ih =>
    obtain ⟨ht, hrest⟩ := List.forall_mem_cons.mp hpieces
    exact ih (isName_of_mem_stepFrom h ht) hrest

/-- What a location names is a place. -/
theorem isName_of_mem_placeOf (cwd l : Text) : ∀ n ∈ placeOf cwd l, IsName n := by
  unfold placeOf
  split_ifs
  · exact isName_of_mem_walkFrom (by simp) l
  · exact isName_of_mem_walkFrom (isName_of_mem_walkFrom (by simp) cwd) l

/-- At the root a piece does to a place what it does to the stack. -/
theorem reverse_push_rooted (h : up ∉ stack) : (push true stack piece).reverse = stepFrom stack.reverse piece := by
  unfold stepFrom
  split_ifs with hdrop hup
  · rw [push_dropped hdrop]
  · subst hup
    cases stack with
    | nil => rfl
    | cons top rest =>
      have htop : top ≠ up := fun heq => h (heq ▸ List.mem_cons_self)
      rw [push_up_cons, if_neg htop, List.reverse_cons, List.dropLast_concat]
  · rw [push_kept hdrop hup, List.reverse_cons]

/-- At the root pieces do to a place what they do to the stack. -/
theorem reverse_foldl_push_rooted (h : up ∉ stack) :
    (pieces.foldl (push true) stack).reverse = pieces.foldl stepFrom stack.reverse := by
  induction pieces generalizing stack with
  | nil => rfl
  | cons t rest ih => rw [List.foldl_cons, List.foldl_cons, ih (up_notMem_push_rooted h), reverse_push_rooted h]

/-- The segments of a rooted path are the place that it leads to. -/
theorem segments_eq_walkFrom (hp : isRooted p) : segments p = walkFrom [] p := by
  rw [segments, hp, reverse_foldl_push_rooted List.not_mem_nil, List.reverse_nil, walkFrom]

/-- A path below another leads on from where that one leads. -/
theorem walkFrom_append (place : List Text) (p q : Text) :
    walkFrom place (p ++ slash :: q) = walkFrom (walkFrom place p) q := by
  rw [walkFrom, Text.splitAt_append_cons, List.foldl_append, walkFrom, walkFrom]

/-! ## Normal forms -/

/-- Making a location absolute writes the path of the place that it names. -/
theorem absolute_eq_placeOf (hcwd : isRooted cwd) (hne : l ≠ []) : absolute cwd l = Site.pathAt (placeOf cwd l) := by
  unfold absolute placeOf
  split_ifs with hrooted
  · rw [clean_of_rooted hrooted, segments_eq_walkFrom hrooted]
  · have hcwdNe : cwd ≠ [] := by
      rintro rfl
      cases hcwd
    have hbelow : isRooted (cwd ++ slash :: l) := by
      rwa [isRooted, List.head?_append_of_ne_nil _ hcwdNe]
    rw [join, if_neg hcwdNe, if_neg hne, clean_of_rooted hbelow, segments_eq_walkFrom hbelow, walkFrom_append]

/-- The normal form of a local location is the path of the place that it names. -/
theorem normalize_eq_placeOf (hcwd : isRooted cwd) (hne : l ≠ []) (hlocal : isAddress l = false) :
    normalize cwd l = Site.pathAt (placeOf cwd l) := by
  rw [normalize, if_neg hne, hlocal, if_neg Bool.false_ne_true, absolute_eq_placeOf hcwd hne]

/-- An address is its own normal form. -/
theorem normalize_of_isAddress (cwd : Text) (h : isAddress l = true) : normalize cwd l = l := by
  rw [normalize, if_pos h, ite_self]

/-- The path of a place is a clean path. -/
theorem isCleanPath_pathAt (h : ∀ n ∈ place, IsName n) : IsCleanPath (Site.pathAt place) := ⟨rfl, clean_pathAt h⟩

/-- The path of a place is plain. -/
theorem plain_pathAt (h : ∀ n ∈ place, IsName n) : plain (Site.pathAt place) = Site.pathAt place := by
  rw [plain, isAddress_pathAt h, Bool.not_false, if_pos rfl, clean_pathAt h]

/-- A clean path is the path of the place that it names. -/
theorem IsCleanPath.eq_pathAt (h : IsCleanPath p) (cwd : Text) : p = Site.pathAt (placeOf cwd p) := by
  rw [placeOf, if_pos h.rooted, ← segments_eq_walkFrom h.rooted, ← clean_of_rooted h.rooted, h.clean_eq]

/-- The path of a place names it. -/
theorem placeOf_pathAt (cwd : Text) (h : ∀ n ∈ place, IsName n) : placeOf cwd (Site.pathAt place) = place := by
  have hrooted : isRooted (Site.pathAt place) := rfl
  rw [placeOf, if_pos hrooted, ← segments_eq_walkFrom hrooted, segments_pathAt h]

/-- An address of files is cut into the scheme and what stands behind the mark. -/
theorem splitScheme?_fileAddress (host p : Text) : splitScheme? (fileAddress host p) = some (localScheme, host ++ p) :=
  rfl

/-- An address of files is an address. -/
theorem isAddress_fileAddress (host p : Text) : isAddress (fileAddress host p) = true := by
  rw [← isSome_splitScheme?, splitScheme?_fileAddress]
  rfl

/-- The plain form of an address of files is its path, when the path is that of a place. -/
theorem plain_fileAddress {host : Text} (hhost : slash ∉ host) (h : ∀ n ∈ place, IsName n) :
    plain (fileAddress host (Site.pathAt place)) = Site.pathAt place := by
  have hkept : ∀ b ∈ host, (b != slash) = true := fun b hb => bne_iff_ne.mpr fun heq => hhost (heq ▸ hb)
  have hscheme : scheme (fileAddress host (Site.pathAt place)) = localScheme := by
    rw [scheme, splitScheme?_fileAddress]
    rfl
  have hpath : path (fileAddress host (Site.pathAt place)) = Site.pathAt place := by
    rw [path, splitScheme?_fileAddress]
    dsimp only
    rw [List.dropWhile_append_of_pos hkept, Site.pathAt, List.dropWhile_cons_of_neg (by simp)]
  rw [plain, isAddress_fileAddress, Bool.not_true, if_neg Bool.false_ne_true, if_pos hscheme, hpath, clean_pathAt h]

/-- However a place is written, its plain form is the path of the place. -/
theorem Spells.plain_normalize (hcwd : isRooted cwd) (hplace : ∀ n ∈ place, IsName n) (h : Spells cwd place w) :
    plain (normalize cwd w) = Site.pathAt place := by
  cases h with
  | path hne hlocal h => rw [normalize_eq_placeOf hcwd hne hlocal, h, plain_pathAt hplace]
  | address =>
    rw [normalize_of_isAddress cwd (isAddress_fileAddress _ _), plain_fileAddress List.not_mem_nil hplace]
  | hosted => rw [normalize_of_isAddress cwd (isAddress_fileAddress _ _), plain_fileAddress (by decide) hplace]

end Location

/-! ## The roles directory on a walk -/

namespace Candidates

/-- A walk with the given rules, of the directory at the place `base`, takes the directory at `place` for the
one with the roles, and no other. It is not entered. -/
structure Rules.LeavesOut (r : Rules) (base place : List Text) : Prop where
  compared : ∀ d, d ≠ [] → (∀ n ∈ d, Location.IsName n) →
    (r.locate (relativePath d) = r.rolesDir ↔ base ++ d = place)
  skipped : ∀ above name cs, (∀ n ∈ above ++ [name], Location.IsName n) → base ++ (above ++ [name]) = place →
    r.ignores (relativePath (above ++ [name])) true = false →
    walk r (relativePath above) name (.directory cs) = [.rolesDir (Site.pathAt place)]

/-- Rules that know the places of the root and the roles leave the roles out. -/
theorem Rules.Rooted.leavesOut {r : Rules} {root roles : List Text} (h : r.Rooted root roles) :
    r.LeavesOut root roles := by
  have hcompared : ∀ d, d ≠ [] → (∀ n ∈ d, Location.IsName n) →
      (r.locate (relativePath d) = r.rolesDir ↔ root ++ d = roles) := by
    intro d hne hd
    rw [h.locate_eq hd hne]
    exact h.rolesDir_iff _ (List.append_ne_nil_of_right_ne_nil _ hne) (List.forall_mem_append.mpr ⟨h.names, hd⟩)
  refine ⟨hcompared, fun above name cs hnames hplace hincluded => ?_⟩
  obtain ⟨habove, hname⟩ := List.forall_mem_append.mp hnames
  have hne : above ++ [name] ≠ [] := List.append_ne_nil_of_right_ne_nil _ (List.cons_ne_nil _ _)
  rw [walk, below_relativePath habove (List.forall_mem_singleton.mp hname), hincluded, if_neg Bool.false_ne_true,
    if_pos ((hcompared _ hne hnames).mpr hplace), h.locate_eq hnames hne, hplace]

end Candidates

namespace Analyzer

variable {s : Site} {w : Text} {place : List Text}

/-- However the roles directory is written, the rules of a walk know its place. -/
theorem rooted_rules_of_spells (hcwd : Location.isRooted s.cwd) (hplace : ∀ n ∈ place, Location.IsName n)
    (h : Location.Spells s.cwd place w) (c : Choices) (root : Text) (lines : List Text) :
    ((ofChoices s w c).rules s root lines).Rooted
      (Location.segments (s.pathOf (Location.normalize s.cwd root))) place := by
  obtain ⟨base, hbase, hpath⟩ := Site.pathOf_eq_pathAt hcwd (Location.normalize s.cwd root)
  rw [hpath, Location.segments_pathAt hbase]
  refine ⟨hbase, hpath, fun other _ hother => ?_⟩
  have hroles : ((ofChoices s w c).rules s root lines).rolesDir = Site.pathAt place := h.plain_normalize hcwd hplace
  rw [hroles, Location.pathAt_inj hother hplace]

/-- The candidates depend on the roles directory through its plain form only. -/
theorem candidates_congr {w' : Text} (c : Choices) (root : Text)
    (h : Location.plain (Location.normalize s.cwd w) = Location.plain (Location.normalize s.cwd w')) :
    (ofChoices s w c).candidates s root = (ofChoices s w' c).candidates s root := by
  have hfind : ∀ matcher excludes start, Candidates.find s (ofChoices s w c).options.rolesDir matcher excludes start =
      Candidates.find s (ofChoices s w' c).options.rolesDir matcher excludes start := by
    intro matcher excludes start
    have hplain : Location.plain (ofChoices s w c).options.rolesDir =
        Location.plain (ofChoices s w' c).options.rolesDir := h
    unfold Candidates.find
    rw [hplain]
  unfold candidates
  rw [hfind]
  rfl

end Analyzer

/-- The normal form of a local location is a clean path, which normalizing again and making plain leave as it
is. It is the one clean path that names the same place, so all spellings of a place have its path for their
normal form, and that is the plain form of the path in an address of files too. Hence a roles directory that is
written in any of these ways is known again on every walk that meets it, and the same candidates are found. -/
theorem Location.normalize_canonical {s : Site} (hcwd : Location.isRooted s.cwd) {l : Text} (hne : l ≠ [])
    (hlocal : Location.isAddress l = false) :
    let p := Location.normalize s.cwd l
    (Location.IsCleanPath p ∧ Location.normalize s.cwd p = p ∧ Location.plain p = p) ∧
    (∀ q, Location.IsCleanPath q → (p = q ↔ Location.placeOf s.cwd l = Location.placeOf s.cwd q)) ∧
    Location.plain (Location.fileAddress [] p) = p ∧
    Location.plain (Location.fileAddress Location.localHost p) = p ∧
    ∀ w, Location.Spells s.cwd (Location.placeOf s.cwd l) w → ∀ c root,
      (∀ lines, ((Analyzer.ofChoices s w c).rules s root lines).LeavesOut
        (Location.segments (s.pathOf (Location.normalize s.cwd root))) (Location.placeOf s.cwd l)) ∧
      (Analyzer.ofChoices s w c).candidates s root = (Analyzer.ofChoices s l c).candidates s root := by
  intro p
  have hplace := Location.isName_of_mem_placeOf s.cwd l
  have hp : p = Site.pathAt (Location.placeOf s.cwd l) := Location.normalize_eq_placeOf hcwd hne hlocal
  have hsame : Location.normalize s.cwd p = p := by
    rw [hp, Location.normalize_eq_placeOf hcwd (Location.pathAt_ne_nil _) (Location.isAddress_pathAt hplace),
      Location.placeOf_pathAt s.cwd hplace]
  refine ⟨⟨hp ▸ Location.isCleanPath_pathAt hplace, hsame, hp ▸ Location.plain_pathAt hplace⟩, fun q hq => ?_,
    hp ▸ Location.plain_fileAddress List.not_mem_nil hplace, hp ▸ Location.plain_fileAddress (by decide) hplace,
    fun w hw c root => ⟨fun lines => ?_, ?_⟩⟩
  · rw [hp]
    conv_lhs => rw [hq.eq_pathAt s.cwd]
    exact Location.pathAt_inj hplace (Location.isName_of_mem_placeOf s.cwd q)
  · exact (Analyzer.rooted_rules_of_spells hcwd hplace hw c root lines).leavesOut
  · have hl : Location.Spells s.cwd (Location.placeOf s.cwd l) l := .path hne hlocal rfl
    exact Analyzer.candidates_congr c root
      ((hw.plain_normalize hcwd hplace).trans (hl.plain_normalize hcwd hplace).symm)

/-- From `/srv/w` the spelling `./x/..//roles/` has the normal form `/srv/w/roles`, which is the plain form of the
address with the host, and the roles directory may be written as `../w/roles/.` as well. -/
theorem Location.normalize_canonical_dotted :
    let s : Site := { tree := .directory [], cwd := "/srv/w" }
    let l : Text := "./x/..//roles/"
    (Location.isRooted s.cwd ∧ l ≠ [] ∧ Location.isAddress l = false) ∧
      Location.normalize s.cwd l = "/srv/w/roles" ∧
      Location.plain "file://localhost/srv/w/roles" = "/srv/w/roles" ∧
      ∀ c root, (Analyzer.ofChoices s "../w/roles/." c).candidates s root =
        (Analyzer.ofChoices s l c).candidates s root := by
  intro s l
  obtain ⟨hcwd, hne, hlocal⟩ : Location.isRooted s.cwd ∧ l ≠ [] ∧ Location.isAddress l = false := by decide +kernel
  obtain ⟨-, hunique, -, hhosted, hspells⟩ := Location.normalize_canonical hcwd hne hlocal
  have hclean : Location.IsCleanPath "/srv/w/roles" := ⟨by decide +kernel, by decide +kernel⟩
  have hp : Location.normalize s.cwd l = "/srv/w/roles" := (hunique _ hclean).mpr (by decide +kernel)
  rw [hp] at hhosted
  have hother : Location.Spells s.cwd (Location.placeOf s.cwd l) "../w/roles/." :=
    .path (by decide +kernel) (by decide +kernel) (by decide +kernel)
  exact ⟨⟨hcwd, hne, hlocal⟩, hp, hhosted, fun c root => (hspells _ hother c root).2⟩

end RoleGraph
