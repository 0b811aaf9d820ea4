import RoleGraph.Project
import RoleGraph.Proofs.PlacePaths

/-!
# The root of a project

The search for the root of a project climbs from directory to directory. Each turn goes on to the parent,
which is the path of the place right above, so the climb ends at the root of the tree, whose parent it is
itself. The first directory on the way that is marked is the root. As it is a place above the target, or
the target itself, the path of the target seen from there leads back to it.
-/

namespace RoleGraph

open Text (slash)

namespace Project

variable {s : Site} {dir start target : Text} {place : List Text} {name : Text} {n : Nat}

/-- The directory that is so many steps above another. -/
def above (dir : Text) : Nat → Text
  | 0 => dir
  | steps + 1 => above (Location.parent dir) steps

/-- A climb from directory to directory ends after so many steps: it comes to the root, goes no further from
there, and moves on from every directory before. -/
structure Climb (start : Text) (steps : Nat) : Prop where
  top : above start steps = [slash]
  stops : Location.parent (above start steps) = above start steps
  moves : ∀ k < steps, Location.parent (above start k) ≠ above start k

/-- A directory is the root of an Ansible project: it has the configuration of Ansible, or a directory of
roles. A file of that name does not count. -/
def IsAnsible (s : Site) (dir : Text) : Prop :=
  (s.find? (Location.join dir "ansible.cfg")).isSome ∨ s.isDirectory (Location.join dir rolesName)

/-- A directory is the root of a project: one of Ansible, or a repository. -/
def IsMarked (s : Site) (dir : Text) : Prop :=
  IsAnsible s dir ∨ (s.find? (Location.join dir ".git")).isSome

/-- Whether a directory is the root of an Ansible project is looked up. -/
instance (s : Site) (dir : Text) : Decidable (IsAnsible s dir) := inferInstanceAs (Decidable (_ ∨ _))

/-- Whether a directory is the root of a project is looked up. -/
instance (s : Site) (dir : Text) : Decidable (IsMarked s dir) := inferInstanceAs (Decidable (_ ∨ _))

/-- The type of the project whose root is a marked directory. -/
def typeOf (s : Site) (dir : Text) : ProjectType := if IsAnsible s dir then .ansible else .git

/-- A marked directory is the root of a project of a known type. -/
theorem typeOf_ne_unknown (s : Site) (dir : Text) : typeOf s dir ≠ .unknown := by
  unfold typeOf
  split_ifs <;> decide

/-- The root and the type of the project of a directory: the nearest marked directory at or above it, or
else the directory itself. -/
inductive NearestRoot (s : Site) (start : Text) : Text → ProjectType → Prop
  | marked (steps : Nat) (hroot : IsMarked s (above start steps))
      (hbefore : ∀ k < steps, ¬ IsMarked s (above start k)) :
      NearestRoot s start (above start steps) (typeOf s (above start steps))
  | unmarked (hnone : ∀ k, ¬ IsMarked s (above start k)) : NearestRoot s start start .unknown

/-! ## The climb -/

/-- Only the root is above itself. -/
theorem above_root (steps : Nat) : above [slash] steps = [slash] := by
  induction steps with
  | zero => rfl
  | succ steps ih => exact ih

/-- A climb takes one step more from a directory that is not the root. -/
theorem Climb.below (h : Climb (Location.parent start) n) (hmoves : Location.parent start ≠ start) :
    Climb start (n + 1) where
  top := h.top
  stops := h.stops
  moves := by
    rintro (_ | k) hk
    · exact hmoves
    · exact h.moves k (Nat.lt_of_succ_lt_succ hk)

/-- The climb from the path of a place takes as many steps as the place has names. -/
theorem climb_pathAt (h : ∀ name ∈ place, Location.IsName name) : Climb (Site.pathAt place) place.length := by
  induction place using List.reverseRecOn with
  | nil => exact ⟨rfl, rfl, nofun⟩
  | append_singleton place name ih =>
    obtain ⟨hplace, hname⟩ := List.forall_mem_append.mp h
    have hparent := Location.parent_pathAt_concat hplace (List.forall_mem_singleton.mp hname)
    rw [List.length_append, List.length_singleton]
    refine Climb.below (hparent ▸ ih hplace) ?_
    rw [hparent, Ne, Location.pathAt_inj hplace h]
    exact fun heq => List.cons_ne_nil name [] (List.self_eq_append_right.mp heq)

/-- The search starts at the place itself. -/
theorem ancestors_eq_cons (place : List Text) :
    ancestors place = place :: (List.range place.length).reverse.map place.take := by
  rw [ancestors, List.range_succ, List.reverse_append, List.reverse_singleton, List.singleton_append, List.map_cons,
    List.take_length]

/-- The search goes on with the places above. -/
theorem ancestors_concat (place : List Text) (name : Text) :
    ancestors (place ++ [name]) = (place ++ [name]) :: ancestors place := by
  rw [ancestors_eq_cons, List.length_append, List.length_singleton, ancestors]
  congr 1
  refine List.map_congr_left fun k hk => List.take_append_of_le_length ?_
  exact Nat.le_of_lt_succ (List.mem_range.mp (List.mem_reverse.mp hk))

/-- The directories that are searched are those of the climb, in its order. -/
theorem map_pathAt_ancestors (h : ∀ name ∈ place, Location.IsName name) :
    (ancestors place).map Site.pathAt = (List.range (place.length + 1)).map (above (Site.pathAt place)) := by
  induction place using List.reverseRecOn with
  | nil => rfl
  | append_singleton place name ih =>
    obtain ⟨hplace, hname⟩ := List.forall_mem_append.mp h
    have hparent := Location.parent_pathAt_concat hplace (List.forall_mem_singleton.mp hname)
    rw [ancestors_concat, List.map_cons, ih hplace, List.length_append, List.length_singleton,
      List.range_succ_eq_map (n := place.length + 1), List.map_cons, List.map_map, ← hparent]
    rfl

/-- Every place that is searched is a part of the first. -/
theorem prefix_of_mem_ancestors {root : List Text} (h : root ∈ ancestors place) : root <+: place := by
  obtain ⟨k, -, rfl⟩ := List.mem_map.mp h
  exact List.take_prefix k place

/-! ## Marked directories -/

/-- The type of the project at a place is that of its path, if that is marked. -/
theorem typeAt?_eq (h : ∀ name ∈ place, Location.IsName name) :
    typeAt? s place = if IsMarked s (Site.pathAt place) then some (typeOf s (Site.pathAt place)) else none := by
  have hconfig := Site.find?_join_pathAt (s := s) h (by decide : Location.IsName "ansible.cfg")
  have hroles := Site.find?_join_pathAt (s := s) h (by decide : Location.IsName rolesName)
  have hgit := Site.find?_join_pathAt (s := s) h (by decide : Location.IsName ".git")
  unfold typeAt? typeOf
  simp only [IsMarked, IsAnsible, Site.isDirectory, hconfig, hroles, hgit]
  by_cases hansible : (s.tree.find? (place ++ [Text.ofString "ansible.cfg"])).isSome
  · simp only [hansible, if_true, true_or]
  by_cases hdirectory : (s.tree.find? (place ++ [rolesName])).any Tree.isDirectory
  · simp only [hdirectory, if_true, or_true, true_or, ite_self]
  · simp only [hansible, hdirectory, if_false, false_or, Bool.false_eq_true]

/-- The search ends where it starts if that is marked. -/
theorem rootAbove?_of_isMarked (h : ∀ name ∈ place, Location.IsName name) (hmarked : IsMarked s (Site.pathAt place)) :
    rootAbove? s place = some (place, typeOf s (Site.pathAt place)) := by
  rw [rootAbove?, ancestors_eq_cons, List.findSome?_cons, typeAt?_eq h, if_pos hmarked]
  rfl

/-- The search goes on above a place that is not marked. -/
theorem rootAbove?_concat (h : ∀ n ∈ place ++ [name], Location.IsName n)
    (hplain : ¬ IsMarked s (Site.pathAt (place ++ [name]))) : rootAbove? s (place ++ [name]) = rootAbove? s place := by
  rw [rootAbove?, ancestors_concat, List.findSome?_cons, typeAt?_eq h, if_neg hplain, rootAbove?]
  rfl

/-- The nearest root of a directory that is not marked is that of its parent. -/
theorem NearestRoot.below {root : Text} {type : ProjectType} (h : NearestRoot s (Location.parent start) root type)
    (hfound : type ≠ .unknown) (hplain : ¬ IsMarked s start) : NearestRoot s start root type := by
  cases h with
  | marked steps hroot hbefore =>
    refine .marked (steps + 1) hroot ?_
    rintro (_ | k) hk
    · exact hplain
    · exact hbefore k (Nat.lt_of_succ_lt_succ hk)
  | unmarked => contradiction

/-- The search finds the nearest root, or else no directory on the way is marked. -/
theorem rootAbove?_nearest (h : ∀ name ∈ place, Location.IsName name) :
    match rootAbove? s place with
    | some (root, type) => NearestRoot s (Site.pathAt place) (Site.pathAt root) type ∧ type ≠ .unknown
    | none => ∀ k, ¬ IsMarked s (above (Site.pathAt place) k) := by
  induction place using List.reverseRecOn with
  | nil =>
    by_cases hmarked : IsMarked s (Site.pathAt [])
    · rw [rootAbove?_of_isMarked h hmarked]
      exact ⟨.marked 0 hmarked nofun, typeOf_ne_unknown s _⟩
    · have hnone : rootAbove? s [] = none := by
        rw [rootAbove?, ancestors_eq_cons, List.findSome?_cons, typeAt?_eq h, if_neg hmarked]
        rfl
      rw [hnone]
      intro k
      rwa [show Site.pathAt [] = [slash] from rfl, above_root]
  | append_singleton place name ih =>
    obtain ⟨hplace, hname⟩ := List.forall_mem_append.mp h
    have hparent := Location.parent_pathAt_concat hplace (List.forall_mem_singleton.mp hname)
    by_cases hmarked : IsMarked s (Site.pathAt (place ++ [name]))
    · rw [rootAbove?_of_isMarked h hmarked]
      exact ⟨.marked 0 hmarked nofun, typeOf_ne_unknown s _⟩
    · have ih := ih hplace
      rw [← hparent] at ih
      rw [rootAbove?_concat h hmarked]
      cases hfound : rootAbove? s place with
      | some found =>
        rw [hfound] at ih
        exact ⟨ih.1.below ih.2 hmarked, ih.2⟩
      | none =>
        rw [hfound] at ih
        rintro (_ | k)
        · exact hmarked
        · exact ih k

/-- The root that a project gets is the nearest root of the start directory, and a place at or above it. -/
theorem nearestRoot_getD {root : List Text} {type : ProjectType} (h : ∀ name ∈ place, Location.IsName name)
    (hroot : (rootAbove? s place).getD (place, .unknown) = (root, type)) :
    NearestRoot s (Site.pathAt place) (Site.pathAt root) type ∧ root <+: place := by
  have hnearest := rootAbove?_nearest (s := s) h
  cases hfound : rootAbove? s place with
  | some found =>
    rw [hfound] at hnearest hroot
    cases hroot
    obtain ⟨p, hp, hmap⟩ := List.exists_of_findSome?_eq_some hfound
    obtain ⟨_, -, heq⟩ := Option.map_eq_some_iff.mp hmap
    obtain ⟨rfl, -⟩ := Prod.mk.inj heq
    exact ⟨hnearest.1, prefix_of_mem_ancestors hp⟩
  | none =>
    rw [hfound] at hnearest hroot
    cases hroot
    exact ⟨.unmarked hnearest, List.prefix_rfl⟩

/-! ## Detection -/

/-- The place that the search starts from: that of the target if it is a directory, or else the one above. -/
def startPlace (t : Tree) (place : List Text) : List Text := if t.isDirectory then place else place.dropLast

/-- The search starts at the target or above. -/
theorem startPlace_above (t : Tree) (place : List Text) : startPlace t place <+: place := by
  unfold startPlace
  split_ifs
  exacts [List.prefix_rfl, List.dropLast_prefix place]

/-- The search starts from the target if it is a directory, or else from its parent. -/
theorem pathAt_startPlace (t : Tree) (h : ∀ name ∈ place, Location.IsName name) :
    Site.pathAt (startPlace t place) =
      if t.isDirectory then Site.pathAt place else Location.parent (Site.pathAt place) := by
  rw [startPlace, apply_ite Site.pathAt, Location.parent_pathAt h]

/-- A project is detected for every target that is there. -/
theorem exists_detect {t : Tree} (h : s.find? (Location.absolute s.cwd target) = some t) :
    ∃ p, detect s target = .ok p := by
  unfold detect
  dsimp only
  rw [Site.find?] at h
  rw [h]
  exact ⟨_, rfl⟩

/-- Where the fields of a detected project come from. -/
theorem detect_inv {p : Project} (h : detect s target = .ok p) :
    ∃ t start root, s.find? (Location.absolute s.cwd target) = some t ∧
      start = startPlace t (Location.segments (Location.absolute s.cwd target)) ∧
      (rootAbove? s start).getD (start, .unknown) = (root, p.type) ∧ p.root = Site.pathAt root ∧
      p.relative = Location.relative p.root (Location.absolute s.cwd target) ∧
      p.rolesDir = if (s.tree.find? (root ++ [rolesName])).any Tree.isDirectory
        then some (Site.pathAt (root ++ [rolesName])) else none := by
  unfold detect at h
  dsimp only at h
  cases hfind : s.tree.find? (Location.segments (Location.absolute s.cwd target)) with
  | none =>
    rw [hfind] at h
    cases h
  | some t =>
    obtain ⟨start, hstart⟩ : ∃ start, start = startPlace t (Location.segments (Location.absolute s.cwd target)) :=
      ⟨_, rfl⟩
    obtain ⟨⟨root, type⟩, hroot⟩ : ∃ found, (rootAbove? s start).getD (start, .unknown) = found := ⟨_, rfl⟩
    rw [hfind] at h
    dsimp only at h
    rw [← startPlace, ← hstart, hroot] at h
    obtain rfl := Except.ok.inj h
    exact ⟨t, start, root, hfind, hstart, hroot, rfl, rfl, rfl⟩

/-- Detection finds the nearest project root. The climb from the start directory ends, the search looks at
exactly the directories on the way, and the root and the type are those of the nearest marked directory. The
relative path leads from the root back to the target, and the roles directory of the project is that of its root,
if there is one. -/
theorem detect_nearest {t : Tree} (hcwd : Location.isRooted s.cwd)
    (hthere : s.find? (Location.absolute s.cwd target) = some t) :
    ∃ p start steps, detect s target = .ok p ∧
      start = (if t.isDirectory then Location.absolute s.cwd target
        else Location.parent (Location.absolute s.cwd target)) ∧
      Climb start steps ∧
      (ancestors (Location.segments start)).map Site.pathAt = (List.range (steps + 1)).map (above start) ∧
      NearestRoot s start p.root p.type ∧
      Location.join p.root p.relative = Location.absolute s.cwd target ∧
      Location.clean (Location.absolute s.cwd target) = Location.absolute s.cwd target ∧
      p.rolesDir = if s.isDirectory (Location.join p.root rolesName)
        then some (Location.join p.root rolesName) else none := by
  obtain ⟨p, hdetect⟩ := exists_detect hthere
  obtain ⟨t', start, root, hthere', rfl, hfound, hroot, hrelative, hrolesDir⟩ := detect_inv hdetect
  obtain rfl : t = t' := Option.some.inj (hthere.symm.trans hthere')
  obtain ⟨place, hplace, hpath⟩ := Location.absolute_eq_pathAt hcwd target
  rw [hpath, Location.segments_pathAt hplace] at hfound
  rw [hpath, hroot] at hrelative
  have hstart : ∀ n ∈ startPlace t place, Location.IsName n :=
    fun n hn => hplace n ((startPlace_above t place).subset hn)
  obtain ⟨hnearest, hprefix⟩ := nearestRoot_getD hstart hfound
  obtain ⟨names, rfl⟩ := hprefix.trans (startPlace_above t place)
  obtain ⟨hrootNames, hnames⟩ := List.forall_mem_append.mp hplace
  rw [hpath]
  refine ⟨p, Site.pathAt (startPlace t (root ++ names)), _, hdetect, pathAt_startPlace t hplace, climb_pathAt hstart,
    ?_, hroot ▸ hnearest, ?_, Location.clean_pathAt hplace, ?_⟩
  · rw [Location.segments_pathAt hstart, map_pathAt_ancestors hstart]
  · rw [hrelative, hroot, Location.join_relative hrootNames hnames]
  · have hname : Location.IsName rolesName := by decide
    rw [hroot, hrolesDir, Site.isDirectory, Site.find?_join_pathAt hrootNames hname,
      Location.join_pathAt_name hrootNames hname]

/-- A site with a directory of roles between a repository above and a file named `roles` below. -/
def levelsSite : Site :=
  { tree := .directory
      [(".git", .directory []),
        ("srv", .directory
          [("roles", .directory []),
            ("deploy", .directory [("roles", .file []), ("play.yml", .file [])])])]
    cwd := "/srv" }

/-- The file named `roles` is passed over, and the repository above is not reached. -/
theorem detect_nearest_levels :
    Location.isRooted levelsSite.cwd ∧
      levelsSite.find? (Location.absolute levelsSite.cwd "deploy/./play.yml") = some (.file []) ∧
      ∃ p steps, detect levelsSite "deploy/./play.yml" = .ok p ∧ Climb "/srv/deploy" steps ∧
        NearestRoot levelsSite "/srv/deploy" p.root p.type ∧ p.root = "/srv" ∧ p.type = .ansible ∧
        Location.join p.root p.relative = "/srv/deploy/play.yml" ∧ p.rolesDir = some "/srv/roles" := by
  have hcwd : Location.isRooted levelsSite.cwd := by decide +kernel
  have hthere : levelsSite.find? (Location.absolute levelsSite.cwd "deploy/./play.yml") = some (.file []) := by
    have hpath : Location.segments (Location.absolute levelsSite.cwd "deploy/./play.yml") =
        ["srv", "deploy", "play.yml"] := by decide +kernel
    rw [Site.find?, hpath]
    rfl
  obtain ⟨p, start, steps, hdetect, hstart, hclimb, -, hnearest, hback, -, hrolesDir⟩ := detect_nearest hcwd hthere
  have hp : detect levelsSite "deploy/./play.yml" = .ok
      { root := "/srv", type := .ansible, name := "srv", relative := "deploy/play.yml",
        rolesDir := some "/srv/roles", origin := [] } := by decide +kernel
  obtain rfl := Except.ok.inj (hdetect.symm.trans hp)
  obtain rfl : start = "/srv/deploy" := hstart.trans (by decide +kernel)
  have htarget : Location.absolute levelsSite.cwd "deploy/./play.yml" = "/srv/deploy/play.yml" := by decide +kernel
  exact ⟨hcwd, hthere, _, steps, hdetect, hclimb, hnearest, rfl, rfl, hback.trans htarget,
    hrolesDir.trans (by decide +kernel)⟩

end Project

end RoleGraph
