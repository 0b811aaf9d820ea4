import RoleGraph.Proofs.FileIdentity
import RoleGraph.Site

/-!
# Paths of places

A place in the file tree is a list of names, and no name can be mistaken for something else in a path:
it is not empty, has no slash and is no step. So the path that is written from a place leads back to
it, is its own cleaned form and never looks like an address, appending or joining the names of a place
below gives the path of that place, and its parent is the path of the place above. The absolute path of any
location is the path of a place.
-/

namespace RoleGraph

open Text (slash)

namespace Text

/-- A part that is found in a text stands somewhere in it. -/
theorem exists_of_has {part t : Text} (h : has part t = true) : ∃ before after, t = before ++ (part ++ after) := by
  induction t with
  | nil => exact ⟨[], [], by rw [List.isEmpty_iff.mp h]; rfl⟩
  | cons b rest ih =>
    rw [has, Bool.or_eq_true] at h
    rcases h with h | h
    · obtain ⟨after, hafter⟩ := List.isPrefixOf_iff_prefix.mp h
      exact ⟨[], after, hafter.symm⟩
    · obtain ⟨before, after, rfl⟩ := ih h
      exact ⟨b :: before, after, rfl⟩

/-- Two lists of texts are joined with one more separator in between. -/
theorem joinWith_append {part : Text} {xs ys : List Text} (hxs : xs ≠ []) (hys : ys ≠ []) :
    joinWith part (xs ++ ys) = joinWith part xs ++ (part ++ joinWith part ys) := by
  induction xs with
  | nil => contradiction
  | cons x rest ih =>
    by_cases hrest : rest = []
    · subst hrest
      rw [List.singleton_append, joinWith_cons hys, List.append_assoc]
      rfl
    · rw [List.cons_append, joinWith_cons (List.append_ne_nil_of_left_ne_nil hrest ys), ih hrest,
        joinWith_cons hrest, List.append_assoc, List.append_assoc, List.append_assoc]

end Text

namespace Location

variable {rooted : Bool} {stack pieces place names : List Text} {piece name p : Text}

/-- What a file may be called: a single segment of a path that is no step up. -/
structure IsName (name : Text) : Prop extends Resolved name where
  ne_up : name ≠ up

/-- Whether a text can be the name of a file is read off it. -/
instance (name : Text) : Decidable (IsName name) :=
  decidable_of_iff (name ≠ [] ∧ name ≠ here ∧ slash ∉ name ∧ name ≠ up)
    ⟨fun ⟨h, h', h'', h'''⟩ => ⟨⟨h, h', h''⟩, h'''⟩, fun h => ⟨h.ne_nil, h.ne_here, h.slash_free, h.ne_up⟩⟩

/-- At the root no step up is kept. -/
theorem up_notMem_push_rooted (h : up ∉ stack) : up ∉ push true stack piece := by
  by_cases hdrop : piece = [] ∨ piece = here
  · rwa [push_dropped hdrop]
  by_cases hup : piece = up
  · subst hup
    cases stack with
    | nil => exact List.not_mem_nil
    | cons top rest =>
      obtain ⟨htop, hrest⟩ := not_or.mp (mt List.mem_cons.mpr h)
      rw [push_up_cons, if_neg (Ne.symm htop)]
      exact hrest
  · rw [push_kept hdrop hup]
    exact mt List.mem_cons.mp (not_or.mpr ⟨Ne.symm hup, h⟩)

/-- At the root no steps up are kept. -/
theorem up_notMem_foldl_push_rooted (h : up ∉ stack) : up ∉ pieces.foldl (push true) stack := by
  induction pieces generalizing stack with
  | nil => exact h
  | cons t rest ih => exact ih (up_notMem_push_rooted h)

/-- The segments of a rooted path are names. -/
theorem isName_of_mem_segments (hp : isRooted p) : ∀ s ∈ segments p, IsName s := by
  intro s hs
  refine ⟨resolved_of_mem_segments s hs, ?_⟩
  rintro rfl
  rw [segments, hp, List.mem_reverse] at hs
  exact up_notMem_foldl_push_rooted List.not_mem_nil hs

/-- Names are pushed one on top of the other. -/
theorem foldl_push_names (h : ∀ n ∈ names, IsName n) :
    names.foldl (push rooted) stack = names.reverse ++ stack := by
  induction names generalizing stack with
  | nil => rfl
  | cons n rest ih =>
    obtain ⟨hn, hrest⟩ := List.forall_mem_cons.mp h
    rw [List.foldl_cons, push_kept (not_or.mpr ⟨hn.ne_nil, hn.ne_here⟩) hn.ne_up, ih hrest, List.reverse_cons,
      List.append_assoc, List.singleton_append]

/-- Joined names are the segments of the path that they make. -/
theorem segments_joinWith (h : ∀ n ∈ names, IsName n) (hne : names ≠ []) :
    segments (Text.joinWith [slash] names) = names := by
  rw [segments, Text.splitAt_joinWith hne fun n hn => (h n hn).slash_free, foldl_push_names h, List.append_nil,
    List.reverse_reverse]

/-- Joined names are not the empty path. -/
theorem joinWith_ne_nil (h : ∀ n ∈ names, IsName n) (hne : names ≠ []) : Text.joinWith [slash] names ≠ [] := by
  intro hnil
  rw [← segments_joinWith h hne] at hne
  exact hne (by rw [hnil]; rfl)

/-- Joined names are a path that is not rooted. -/
theorem isRooted_joinWith (h : ∀ n ∈ names, IsName n) : isRooted (Text.joinWith [slash] names) = false := by
  rw [isRooted, beq_eq_false_iff_ne]
  intro hhead
  obtain ⟨rest, hrest⟩ := List.head?_eq_some_iff.mp hhead
  by_cases hne : names = []
  · subst hne
    cases hrest
  · have hsplit := Text.splitAt_joinWith hne fun n hn => (h n hn).slash_free
    rw [hrest, Text.splitAt_cons_self] at hsplit
    exact (h [] (hsplit ▸ List.mem_cons_self)).ne_nil rfl

/-- Joined names are a clean path. -/
theorem clean_joinWith (h : ∀ n ∈ names, IsName n) (hne : names ≠ []) :
    clean (Text.joinWith [slash] names) = Text.joinWith [slash] names := by
  rw [clean_of_segments (by rwa [segments_joinWith h hne]), isRooted_joinWith h, segments_joinWith h hne]
  rfl

/-- Joined names have no outer slashes. -/
theorem trimSlashes_joinWith (h : ∀ n ∈ names, IsName n) (hne : names ≠ []) :
    Text.trimSlashes (Text.joinWith [slash] names) = Text.joinWith [slash] names := by
  have htrim := trimSlashes_clean (p := Text.joinWith [slash] names) (by rwa [segments_joinWith h hne])
  rwa [clean_joinWith h hne, segments_joinWith h hne] at htrim

/-- The path of a place leads to it. -/
theorem segments_pathAt (h : ∀ n ∈ place, IsName n) : segments (Site.pathAt place) = place := by
  by_cases hne : place = []
  · subst hne
    rfl
  · rw [segments, Site.pathAt, Text.splitAt_cons_self, Text.splitAt_joinWith hne fun n hn => (h n hn).slash_free,
      List.foldl_cons, push_dropped (Or.inl rfl), foldl_push_names h, List.append_nil, List.reverse_reverse]

/-- Places with one path are the same. -/
theorem pathAt_inj {place' : List Text} (h : ∀ n ∈ place, IsName n) (h' : ∀ n ∈ place', IsName n) :
    Site.pathAt place = Site.pathAt place' ↔ place = place' := by
  constructor
  · intro heq
    rw [← segments_pathAt h, heq, segments_pathAt h']
  · exact congrArg Site.pathAt

/-- The cleaned form of a rooted path is the path of a place. -/
theorem clean_of_rooted (hp : isRooted p) : clean p = Site.pathAt (segments p) := by
  unfold clean
  dsimp only
  rw [if_pos hp, Site.pathAt]

/-- The path of a place is clean. -/
theorem clean_pathAt (h : ∀ n ∈ place, IsName n) : clean (Site.pathAt place) = Site.pathAt place := by
  rw [clean_of_rooted rfl, segments_pathAt h]

/-- The base of the path of a place is the last name. -/
theorem isName_base_pathAt (h : ∀ n ∈ place, IsName n) (hne : place ≠ []) : IsName (base (Site.pathAt place)) := by
  have hpieces : pieces (Site.pathAt place) = place := by
    have hclean := pieces_clean (p := Site.pathAt place) (by rwa [segments_pathAt h])
    rwa [clean_pathAt h, segments_pathAt h] at hclean
  rw [base_eq_last (p := Site.pathAt place) (List.cons_ne_nil _ _), hpieces, List.getLast?_eq_some_getLast hne]
  exact h _ (List.getLast_mem hne)

/-- The path of a place is no address. -/
theorem isAddress_pathAt (h : ∀ n ∈ place, IsName n) : isAddress (Site.pathAt place) = false := by
  rw [← Bool.not_eq_true]
  intro haddress
  obtain ⟨before, after, hmark⟩ := Text.exists_of_has haddress
  by_cases hne : place = []
  · subst hne
    have hlength := congrArg List.length hmark
    simp [Site.pathAt, Text.joinWith, schemeMark, Text.ofString, Text.ofChars, Text.encodeChar] at hlength
    omega
  · -- The slashes of the mark have an empty piece in between, but no name is empty.
    have hmark : Site.pathAt place = before ++ [Text.byte ':'] ++ slash :: slash :: after := by
      rw [hmark, List.append_assoc]
      rfl
    obtain ⟨first, more, hfirst⟩ := List.exists_cons_of_ne_nil (Text.splitAt_ne_nil slash (before ++ [Text.byte ':']))
    have hsplit := congrArg (Text.splitAt slash) hmark
    rw [Site.pathAt, Text.splitAt_cons_self, Text.splitAt_joinWith hne fun n hn => (h n hn).slash_free,
      Text.splitAt_append_cons, Text.splitAt_cons_self, hfirst] at hsplit
    have hplace := (List.cons.inj hsplit).2
    exact (h [] (hplace ▸ List.mem_append_right more List.mem_cons_self)).ne_nil rfl

/-- Exactly the addresses are cut at a scheme mark. -/
theorem isSome_splitScheme? (l : Text) : (splitScheme? l).isSome = isAddress l := by
  induction l with
  | nil => rfl
  | cons b rest ih =>
    rw [splitScheme?, isAddress, Text.has, ← isAddress, ← ih]
    cases schemeMark.isPrefixOf (b :: rest) with
    | true => rfl
    | false => rw [if_neg Bool.false_ne_true, Option.isSome_map, Bool.false_or]

/-- What is no address is a path. -/
theorem path_of_not_isAddress {l : Text} (h : isAddress l = false) : path l = l := by
  have hsplit : splitScheme? l = none := by
    rw [← Option.not_isSome_iff_eq_none, isSome_splitScheme?, h]
    exact Bool.false_ne_true
  rw [path, hsplit]

/-- The path of an address is empty or starts at the root. -/
theorem path_of_isAddress {l : Text} (h : isAddress l = true) : path l = [] ∨ isRooted (path l) := by
  obtain ⟨⟨before, rest⟩, hsplit⟩ := Option.isSome_iff_exists.mp ((isSome_splitScheme? l).trans h)
  rw [path, hsplit]
  dsimp only
  have hhead := List.head?_dropWhile_not (· != slash) rest
  cases hpath : rest.dropWhile (· != slash) with
  | nil => exact Or.inl rfl
  | cons b more =>
    rw [hpath] at hhead
    exact Or.inr (by simpa [isRooted] using hhead)

/-- Names appended to the path of a place make the path of the place below. -/
theorem append_pathAt (hplace : ∀ n ∈ place, IsName n) (hnames : ∀ n ∈ names, IsName n) (hne : names ≠ []) :
    append (Site.pathAt place) (Text.joinWith [slash] names) = Site.pathAt (place ++ names) := by
  by_cases hroot : place = []
  · subst hroot
    have hbase : Text.dropTrailing [slash] (Site.pathAt []) = [] := rfl
    have hmark : schemeMark.isSuffixOf (Site.pathAt []) = false := rfl
    unfold append
    dsimp only
    rw [hmark, if_neg Bool.false_ne_true, hbase, trimSlashes_joinWith hnames hne]
    rfl
  · have hlast : (Site.pathAt place).getLast? ≠ some slash := by
      rw [Site.pathAt, List.getLast?_cons_of_ne_nil (joinWith_ne_nil hplace hroot),
        ← trimSlashes_joinWith hplace hroot]
      exact Text.getLast?_trimSlashes _
    rw [append_eq hlast, trimSlashes_joinWith hnames hne, Site.pathAt, Site.pathAt, Text.joinWith_append hroot hne]
    rfl

/-- A name joined to the names of a directory. -/
theorem join_joinWith (hnames : ∀ n ∈ names, IsName n) (hname : IsName name) :
    join (Text.joinWith [slash] names) name = Text.joinWith [slash] (names ++ [name]) := by
  have hall : ∀ n ∈ names ++ [name], IsName n :=
    List.forall_mem_append.mpr ⟨hnames, List.forall_mem_singleton.mpr hname⟩
  have hclean := clean_joinWith hall (List.append_ne_nil_of_right_ne_nil _ (List.cons_ne_nil _ _))
  by_cases hne : names = []
  · subst hne
    have hempty : Text.joinWith [slash] [] = [] := rfl
    rw [join, if_pos hempty, if_neg hname.ne_nil]
    exact hclean
  · rw [Text.joinWith_append hne (List.cons_ne_nil _ _)] at hclean ⊢
    rw [join, if_neg (joinWith_ne_nil hnames hne), if_neg hname.ne_nil]
    exact hclean

/-- The path of a place is not empty. -/
theorem pathAt_ne_nil (place : List Text) : Site.pathAt place ≠ [] := List.cons_ne_nil _ _

/-- Joining names to the path of a place leads to the place below. -/
theorem join_pathAt (hplace : ∀ n ∈ place, IsName n) (hnames : ∀ n ∈ names, IsName n) (hne : names ≠ []) :
    join (Site.pathAt place) (Text.joinWith [slash] names) = Site.pathAt (place ++ names) := by
  have hdescent : descent (Text.joinWith [slash] names) = names := by
    rw [descent, Text.splitAt_joinWith hne fun n hn => (hnames n hn).slash_free, foldl_push_names hnames,
      List.append_nil, List.reverse_reverse]
  have hbelow : StaysBelow (Text.joinWith [slash] names) :=
    ⟨by rwa [hdescent], by rw [hdescent]; exact fun hup => (hnames up hup).ne_up rfl⟩
  rw [join, if_neg (pathAt_ne_nil place), if_neg (joinWith_ne_nil hnames hne), clean_of_rooted rfl,
    segments_below (pathAt_ne_nil place) hbelow, segments_pathAt hplace, hdescent]

/-- Joining a name to the path of a place leads to the place right below. -/
theorem join_pathAt_name (hplace : ∀ n ∈ place, IsName n) (hname : IsName name) :
    join (Site.pathAt place) name = Site.pathAt (place ++ [name]) :=
  join_pathAt hplace (List.forall_mem_singleton.mpr hname) (List.cons_ne_nil _ _)

/-- A last piece that is no step to anywhere leaves the place as it is. -/
theorem segments_pathAt_dropped (h : ∀ n ∈ place, IsName n) (hpiece : piece = [] ∨ piece = here) :
    segments (Site.pathAt place ++ slash :: piece) = place := by
  have hsplit : Text.splitAt slash piece = [piece] := by
    rcases hpiece with rfl | rfl <;> rfl
  rw [segments, isRooted, List.head?_append_of_ne_nil _ (pathAt_ne_nil place), Text.splitAt_append_cons, hsplit,
    List.foldl_append, List.foldl_cons, List.foldl_nil, push_dropped hpiece]
  exact segments_pathAt h

/-- The path of a place that is seen from a place above leads back to it. -/
theorem join_relative (hplace : ∀ n ∈ place, IsName n) (hnames : ∀ n ∈ names, IsName n) :
    join (Site.pathAt place) (relative (Site.pathAt place) (Site.pathAt (place ++ names))) =
      Site.pathAt (place ++ names) := by
  unfold relative
  dsimp only
  rw [segments_pathAt hplace, segments_pathAt (List.forall_mem_append.mpr ⟨hplace, hnames⟩), List.drop_left]
  by_cases hne : names = []
  · subst hne
    rw [List.append_nil, if_pos List.isEmpty_nil, join, if_neg (pathAt_ne_nil place), if_neg (by decide),
      clean_of_rooted rfl, segments_pathAt_dropped hplace (Or.inr rfl)]
  · rw [if_neg (mt List.isEmpty_iff.mp hne), join_pathAt hplace hnames hne]

/-- The parent of the path of a place is the path of the place right above. -/
theorem parent_pathAt_concat (hplace : ∀ n ∈ place, IsName n) (hname : IsName name) :
    parent (Site.pathAt (place ++ [name])) = Site.pathAt place := by
  obtain ⟨dir, hdir, hpath, hsegments⟩ : ∃ dir, isRooted (dir ++ [slash]) ∧
      Site.pathAt (place ++ [name]) = dir ++ [slash] ++ name ∧ segments (dir ++ [slash]) = place := by
    by_cases hroot : place = []
    · subst hroot
      exact ⟨[], rfl, rfl, rfl⟩
    · refine ⟨Site.pathAt place, rfl, ?_, segments_pathAt_dropped hplace (Or.inl rfl)⟩
      rw [Site.pathAt, Text.joinWith_append hroot (List.cons_ne_nil _ _), ← List.append_assoc]
      rfl
  have hkept : ∀ b ∈ name.reverse, (b != slash) = true :=
    fun b hb => bne_iff_ne.mpr fun h => hname.slash_free (h ▸ List.mem_reverse.mp hb)
  have hdrop : Text.dropRightWhile (· != slash) (dir ++ [slash] ++ name) = dir ++ [slash] := by
    rw [Text.dropRightWhile, List.reverse_append, List.dropWhile_append_of_pos hkept, List.reverse_append]
    simp
  rw [parent, hpath, hdrop, clean_of_rooted hdir, hsegments]

/-- The parent of the path of a place is the path of the place without its last name. -/
theorem parent_pathAt (h : ∀ n ∈ place, IsName n) : parent (Site.pathAt place) = Site.pathAt place.dropLast := by
  rcases List.eq_nil_or_concat' place with rfl | ⟨above, name, rfl⟩
  · rfl
  · obtain ⟨habove, hname⟩ := List.forall_mem_append.mp h
    rw [parent_pathAt_concat habove (List.forall_mem_singleton.mp hname), List.dropLast_concat]

/-- A path that is made absolute is the path of a place. -/
theorem absolute_eq_pathAt {cwd : Text} (hcwd : isRooted cwd) (p : Text) :
    ∃ place, (∀ n ∈ place, IsName n) ∧ absolute cwd p = Site.pathAt place := by
  obtain ⟨q, hq, habsolute⟩ : ∃ q, isRooted q ∧ absolute cwd p = clean q := by
    unfold absolute join
    have hne : cwd ≠ [] := by
      intro h
      rw [h] at hcwd
      cases hcwd
    split_ifs with hrooted hnil
    · exact ⟨_, hrooted, rfl⟩
    · exact ⟨_, hcwd, rfl⟩
    · refine ⟨_, ?_, rfl⟩
      rwa [isRooted, List.head?_append_of_ne_nil _ hne]
  exact ⟨_, isName_of_mem_segments hq, habsolute.trans (clean_of_rooted hq)⟩

end Location

namespace Site

variable {s : Site}

/-- The absolute path of a location is the path of a place. -/
theorem pathOf_eq_pathAt (hcwd : Location.isRooted s.cwd) (location : Text) :
    ∃ place, (∀ n ∈ place, Location.IsName n) ∧ s.pathOf location = pathAt place :=
  Location.absolute_eq_pathAt hcwd (Location.path location)

/-- What stands right below a place is found at the joined path. -/
theorem find?_join_pathAt {place : List Text} {name : Text} (hplace : ∀ n ∈ place, Location.IsName n)
    (hname : Location.IsName name) :
    s.find? (Location.join (pathAt place) name) = s.tree.find? (place ++ [name]) := by
  have hnames := List.forall_mem_append.mpr ⟨hplace, List.forall_mem_singleton.mpr hname⟩
  rw [Location.join_pathAt_name hplace hname, find?, Location.segments_pathAt hnames]

/-- The place below which the roles of a directory are looked for. A location without a path has its
roles right below the root. -/
def rolesPlace (s : Site) (rolesDir : Text) : List Text :=
  Location.segments (Location.path (Location.normalize s.cwd rolesDir))

/-- The plain form of a local location that is made absolute is its path, cleaned, and the path is empty
or starts at the root. -/
theorem plain_normalize (hcwd : Location.isRooted s.cwd) {l : Text}
    (hlocal : Location.scheme l = Location.localScheme) :
    Location.plain (Location.normalize s.cwd l) = Location.clean (Location.path (Location.normalize s.cwd l)) ∧
      (Location.path (Location.normalize s.cwd l) = [] ∨
        Location.isRooted (Location.path (Location.normalize s.cwd l))) := by
  by_cases hnil : l = []
  · subst hnil
    exact ⟨rfl, Or.inl rfl⟩
  cases haddress : Location.isAddress l with
  | true =>
    have hsame : Location.normalize s.cwd l = l := by
      unfold Location.normalize
      rw [if_neg hnil, if_pos haddress]
    rw [hsame, Location.plain, haddress, Bool.not_true, if_neg Bool.false_ne_true, if_pos hlocal]
    exact ⟨rfl, Location.path_of_isAddress haddress⟩
  | false =>
    obtain ⟨place, hplace, hpath⟩ := pathOf_eq_pathAt hcwd l
    have habsolute : Location.normalize s.cwd l = pathAt place := by
      unfold Location.normalize
      rw [if_neg hnil, haddress, if_neg Bool.false_ne_true, ← hpath, pathOf, Location.path_of_not_isAddress haddress]
    have hplain := Location.isAddress_pathAt hplace
    rw [habsolute, Location.path_of_not_isAddress hplain, Location.plain, hplain, Bool.not_false, if_pos rfl]
    exact ⟨rfl, Or.inr rfl⟩

/-- A local roles directory has the path of a place below the root for its plain form exactly when its
roles are looked for there. -/
theorem pathAt_eq_plain_normalize (hcwd : Location.isRooted s.cwd) {l : Text}
    (hlocal : Location.scheme l = Location.localScheme) {place : List Text}
    (hplace : ∀ n ∈ place, Location.IsName n) (hne : place ≠ []) :
    pathAt place = Location.plain (Location.normalize s.cwd l) ↔ place = s.rolesPlace l := by
  obtain ⟨hplain, hpath⟩ := plain_normalize hcwd hlocal
  rw [hplain, rolesPlace]
  rcases hpath with hpath | hpath
  · -- The plain form is `.`, and the place is the root.
    rw [hpath]
    constructor
    · intro h
      cases h
    · exact fun h => absurd h hne
  · rw [Location.clean_of_rooted hpath]
    exact Location.pathAt_inj hplace (Location.isName_of_mem_segments hpath)

end Site

end RoleGraph
