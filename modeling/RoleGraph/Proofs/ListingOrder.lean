import Mathlib.Data.Option.Basic
import RoleGraph.Library
import RoleGraph.Proofs.Correspondence
import RoleGraph.Proofs.PlacePaths

/-!
# The order of directory listings

In a directory no two entries have one name, so an entry is found by its name wherever it is listed. Two
trees that list the same entries in other orders, at any depth, have the same files at the same places,
and a site whose directories are listed otherwise answers every question about a location in the same
way. What is read for an analysis is therefore the same library.
-/

namespace RoleGraph

namespace Tree

/-- The entries of each directory have different names, and these can be names of files. -/
inductive Named : Tree → Prop where
  | file (content : Text) : Named (.file content)
  | directory {cs : List (Text × Tree)} (hdistinct : (cs.map Prod.fst).Nodup)
      (hnames : ∀ c ∈ cs, Location.IsName c.1) (hcs : ∀ c ∈ cs, Named c.2) : Named (.directory cs)

mutual

/-- A tree with the entries of each directory listed in another order. -/
inductive Relisted : Tree → Tree → Prop where
  | file (content : Text) : Relisted (.file content) (.file content)
  | directory {cs mid cs' : List (Text × Tree)} (h : EntriesRelisted cs mid) (hperm : mid.Perm cs') :
      Relisted (.directory cs) (.directory cs')

/-- The entries of a directory, in the same order, with those of each directory below in another one. -/
inductive EntriesRelisted : List (Text × Tree) → List (Text × Tree) → Prop where
  | nil : EntriesRelisted [] []
  | cons {name : Text} {t t' : Tree} {rest rest' : List (Text × Tree)} (h : Relisted t t')
      (hrest : EntriesRelisted rest rest') : EntriesRelisted ((name, t) :: rest) ((name, t') :: rest')

end

variable {t t' u : Tree} {cs mid cs' : List (Text × Tree)} {name : Text} {place : List Text}

/-- Where names differ, the entries that are found are those that are listed. -/
theorem lookup_eq_some_iff (hdistinct : (cs.map Prod.fst).Nodup) : cs.lookup name = some t ↔ (name, t) ∈ cs := by
  induction cs with
  | nil => simp
  | cons c rest ih =>
    obtain ⟨n, u⟩ := c
    obtain ⟨hn, hrest⟩ := List.nodup_cons.mp hdistinct
    by_cases heq : name = n
    · subst heq
      have hother : (name, t) ∉ rest := fun h => hn (List.mem_map.mpr ⟨_, h, rfl⟩)
      rw [List.lookup_cons_self, List.mem_cons, or_iff_left hother, Prod.mk.injEq, Option.some.injEq]
      exact ⟨fun h => ⟨rfl, h.symm⟩, fun h => h.2.symm⟩
    · have hne : (name == n) = false := by simpa using heq
      rw [List.lookup_cons, hne, ih hrest, List.mem_cons, Prod.mk.injEq, or_iff_right (fun h => heq h.1)]

/-- Where names differ, the order of the entries does not matter for finding one. -/
theorem lookup_perm (hdistinct : (cs.map Prod.fst).Nodup) (hperm : cs.Perm cs') (name : Text) :
    cs'.lookup name = cs.lookup name := by
  ext u
  rw [lookup_eq_some_iff hdistinct, lookup_eq_some_iff ((hperm.map Prod.fst).nodup_iff.mp hdistinct),
    hperm.mem_iff]

/-- Where names differ, what stands below a directory stands below one of its entries. -/
theorem find?_cons_eq_some (hdistinct : (cs.map Prod.fst).Nodup) :
    (Tree.directory cs).find? (name :: place) = some u ↔ ∃ t, (name, t) ∈ cs ∧ t.find? place = some u := by
  rw [Tree.find?, children]
  cases hlookup : cs.lookup name with
  | none =>
    constructor
    · intro h
      cases h
    · rintro ⟨t, hmem, -⟩
      rw [← lookup_eq_some_iff hdistinct, hlookup] at hmem
      cases hmem
  | some child =>
    constructor
    · exact fun h => ⟨child, (lookup_eq_some_iff hdistinct).mp hlookup, h⟩
    · rintro ⟨t, hmem, hfind⟩
      rw [← lookup_eq_some_iff hdistinct, hlookup] at hmem
      cases hmem
      exact hfind

/-- What stands below a place is found from there. -/
theorem find?_append (t : Tree) (place below : List Text) :
    t.find? (place ++ below) = (t.find? place).bind (·.find? below) := by
  induction place generalizing t with
  | nil => rfl
  | cons name rest ih =>
    rw [List.cons_append, Tree.find?, Tree.find?]
    cases t.children.lookup name with
    | none => rfl
    | some child => exact ih child

/-- What stands in a tree of proper names is one itself, and it is reached by names. -/
theorem Named.find? (h : t.Named) (hfind : t.find? place = some u) :
    u.Named ∧ ∀ n ∈ place, Location.IsName n := by
  induction place generalizing t with
  | nil =>
    obtain rfl : t = u := Option.some.inj hfind
    exact ⟨h, by simp⟩
  | cons name rest ih =>
    cases h with
    | file content => cases hfind
    | directory hdistinct hnames hcs =>
      obtain ⟨child, hmem, hfind⟩ := (find?_cons_eq_some hdistinct).mp hfind
      obtain ⟨hu, hrest⟩ := ih (hcs _ hmem) hfind
      exact ⟨hu, List.forall_mem_cons.mpr ⟨hnames _ hmem, hrest⟩⟩

/-- The names stay in order. -/
theorem EntriesRelisted.names_eq (h : EntriesRelisted cs mid) : mid.map Prod.fst = cs.map Prod.fst := by
  induction cs generalizing mid with
  | nil =>
    cases h
    rfl
  | cons c rest ih =>
    cases h with
    | cons _ hrest => rw [List.map_cons, List.map_cons, ih hrest]

/-- Under each name there is an entry in both directories or in none. -/
theorem EntriesRelisted.lookup (h : EntriesRelisted cs mid) (name : Text) :
    Option.Rel Relisted (cs.lookup name) (mid.lookup name) := by
  induction cs generalizing mid with
  | nil =>
    cases h
    exact .none
  | cons c rest ih =>
    cases h with
    | @cons n _ _ _ _ hchild hrest =>
      by_cases heq : name = n
      · subst heq
        rw [List.lookup_cons_self, List.lookup_cons_self]
        exact .some hchild
      · have hne : (name == n) = false := by simpa using heq
        rw [List.lookup_cons, List.lookup_cons, hne]
        exact ih hrest

/-- In a directory of proper names the order of the listing does not matter for finding an entry. -/
theorem Relisted.lookup (h : EntriesRelisted cs mid) (hperm : mid.Perm cs')
    (hdistinct : (cs.map Prod.fst).Nodup) (name : Text) :
    Option.Rel Relisted (cs.lookup name) (cs'.lookup name) := by
  rw [lookup_perm (h.names_eq.symm ▸ hdistinct) hperm]
  exact h.lookup name

/-- At every place stands something in both trees or in none. -/
theorem Relisted.find? (h : Relisted t t') (hnamed : t.Named) (place : List Text) :
    Option.Rel Relisted (t.find? place) (t'.find? place) := by
  induction place generalizing t t' with
  | nil => exact .some h
  | cons name rest ih =>
    cases h with
    | file content => exact .none
    | @directory cs mid cs' hcs hperm =>
      cases hnamed with
      | directory hdistinct hnames hchildren =>
        have hlookup := Relisted.lookup hcs hperm hdistinct name
        have hnamed : ∀ child, cs.lookup name = some child → child.Named := fun child hchild =>
          hchildren _ ((lookup_eq_some_iff hdistinct).mp hchild)
        rw [Tree.find?, Tree.find?]
        dsimp only [children]
        generalize cs.lookup name = x at hlookup hnamed
        generalize cs'.lookup name = y at hlookup
        cases hlookup with
        | none => exact .none
        | some hchild => exact ih hchild (hnamed _ rfl)

end Tree

namespace Site

/-- The working directory is absolute, and the tree is a directory with proper names. -/
structure Proper (s : Site) : Prop where
  cwd_rooted : Location.isRooted s.cwd
  isDirectory : s.tree.isDirectory
  named : s.tree.Named

/-- The same site, with the entries of each directory listed in another order. -/
structure Relisted (s s' : Site) : Prop where
  tree : s.tree.Relisted s'.tree
  cwd : s'.cwd = s.cwd
  env : s'.env = s.env

variable {s s' : Site}

/-- Steps through a tree do not depend on the order of its listings. -/
theorem follow_relisted {t t' : Tree} (h : t.Relisted t') (hnamed : t.Named) (place steps : List Text) :
    follow t' place steps = follow t place steps := by
  induction steps generalizing place with
  | nil => rfl
  | cons step rest ih =>
    have hfind := h.find? hnamed place
    have hplace : ∀ u, t.find? place = some u → u.Named := fun u hu => (hnamed.find? hu).1
    rw [follow, follow]
    generalize t.find? place = x at hfind hplace
    generalize t'.find? place = y at hfind
    cases hfind with
    | none => rfl
    | some hu =>
      cases hu with
      | file content => rfl
      | @directory cs mid cs' hcs hperm =>
        cases hplace _ rfl with
        | directory hdistinct hnames hchildren =>
          have hlookup : (cs'.lookup step).isSome = (cs.lookup step).isSome := by
            have hrel := Tree.Relisted.lookup hcs hperm hdistinct step
            generalize cs.lookup step = x at hrel
            generalize cs'.lookup step = y at hrel
            cases hrel <;> rfl
          dsimp only
          rw [hlookup, ih, ih, ih]

/-- A path leads to the same place, or fails for the same reason. -/
theorem Relisted.resolve_eq (h : s.Relisted s') (hs : s.tree.Named) (path : Text) :
    s'.resolve path = s.resolve path := by
  unfold resolve
  rw [h.cwd, follow_relisted h.tree hs]

/-- At every path stands something on both sites or on none. -/
theorem Relisted.find? (h : s.Relisted s') (hs : s.tree.Named) (path : Text) :
    Option.Rel Tree.Relisted (s.find? path) (s'.find? path) := h.tree.find? hs _

/-- A location has the same absolute path. -/
theorem Relisted.pathOf_eq (h : s.Relisted s') (location : Text) : s'.pathOf location = s.pathOf location := by
  rw [pathOf, pathOf, h.cwd]

/-- At a location there is something on both sites or on none. -/
theorem Relisted.holds_eq (h : s.Relisted s') (hs : s.tree.Named) (location : Text) :
    s'.holds location = s.holds location := by
  have hfind := h.find? hs (s.pathOf location)
  unfold holds
  rw [h.pathOf_eq]
  generalize s.find? _ = x at hfind
  generalize s'.find? _ = y at hfind
  cases hfind with
  | none => rfl
  | some _ => rfl

/-- A file reads the same. -/
theorem Relisted.read_eq (h : s.Relisted s') (hs : s.tree.Named) (location : Text) :
    s'.read location = s.read location := by
  have hfind := h.find? hs (s.pathOf location)
  unfold read
  rw [h.pathOf_eq]
  dsimp only
  generalize s.find? _ = x at hfind
  generalize s'.find? _ = y at hfind
  cases hfind with
  | none => rfl
  | some htree =>
    cases htree with
    | file content => rfl
    | directory _ _ => rfl

/-- An analysis works on the same library. -/
theorem Relisted.library_eq (h : s.Relisted s') (hs : s.tree.Named) : s'.library = s.library := by
  have hload : s'.load = s.load := by
    funext location
    rw [load, load, h.holds_eq hs, h.read_eq hs]
  unfold library
  rw [hload, funext (h.holds_eq hs)]

/-- The tree to be walked is listed otherwise, or there is none for the same reason. -/
theorem Relisted.walkRoot (h : s.Relisted s') (hs : s.tree.Named) (location : Text) :
    SameOutcome Tree.Relisted (s.walkRoot location) (s'.walkRoot location) := by
  have hfind := h.find? hs (s.pathOf location)
  have hfault : s'.faultAt = s.faultAt := by
    funext path
    rw [faultAt, faultAt, h.resolve_eq hs]
  unfold Site.walkRoot
  dsimp only
  rw [h.pathOf_eq, hfault]
  split_ifs
  · exact .error _
  · generalize s.find? _ = x at hfind
    generalize s'.find? _ = y at hfind
    cases hfind with
    | none => exact .error _
    | some htree =>
      cases htree with
      | file content => exact .ok (.directory (.cons (.file content) .nil) (.refl _))
      | directory hcs hperm => exact .ok (.directory hcs hperm)
  · exact .error _
  · exact .error _

/-- A directory is walked as it stands on the site. -/
theorem find?_of_walkRoot {location : Text} {t : Tree} (h : s.walkRoot location = .ok t)
    (hdirectory : s.isDirectory (s.pathOf location)) : s.find? (s.pathOf location) = some t := by
  unfold Site.walkRoot at h
  dsimp only at h
  unfold isDirectory at hdirectory
  split_ifs at h
  cases hfind : s.find? (s.pathOf location) with
  | none =>
    rw [hfind] at h
    cases h
  | some u =>
    rw [hfind] at h hdirectory
    cases u with
    | file content => cases hdirectory
    | directory cs => rw [Except.ok.inj h]

/-- What is walked is a directory of proper names. -/
theorem Proper.walkRoot (hs : s.Proper) {location : Text} {t : Tree} (h : s.walkRoot location = .ok t) :
    ∃ cs, t = .directory cs ∧ t.Named := by
  obtain ⟨place, hplace, hpath⟩ := pathOf_eq_pathAt hs.cwd_rooted location
  have hfind : s.find? (s.pathOf location) = s.tree.find? place := by
    rw [Site.find?, hpath, Location.segments_pathAt hplace]
  unfold Site.walkRoot at h
  dsimp only at h
  split_ifs at h
  rw [hfind] at h
  cases hstands : s.tree.find? place with
  | none =>
    rw [hstands] at h
    cases h
  | some u =>
    rw [hstands] at h
    cases u with
    | directory cs =>
      cases h
      exact ⟨cs, rfl, (hs.named.find? hstands).1⟩
    | file content =>
      cases h
      -- A file that is walked stands below the root, so its base is its name.
      have hne : place ≠ [] := by
        rintro rfl
        have hroot := hs.isDirectory
        rw [Option.some.inj hstands] at hroot
        cases hroot
      have hname := Location.isName_base_pathAt hplace hne
      rw [← hpath] at hname
      exact ⟨_, rfl, .directory (List.nodup_singleton _) (List.forall_mem_singleton.mpr hname)
        (List.forall_mem_singleton.mpr (.file content))⟩

end Site

end RoleGraph
