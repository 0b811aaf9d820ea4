import RoleGraph.Site

/-!
# Files after a write

A file is written only where nothing but directories stands above it and no directory with entries
stands in its place. Then putting it into the tree changes the content at that one place: what gives
way is the old content or a directory that has no files. So a location that is written either has the
whole content, with every other file as it was, or nothing happens.
-/

namespace RoleGraph

namespace Tree

/-- The content of the file at a place. -/
def content? (t : Tree) (place : List Text) : Option Text :=
  match t.find? place with
  | some (.file content) => some content
  | _ => none

/-- There is room for a file at a place: no file stands above it, and no directory with entries
stands there. -/
structure Room (t : Tree) (place : List Text) : Prop where
  above : t.obstacle? place = none
  there : ∀ c cs, t.find? place ≠ some (.directory (c :: cs))

/-- Room below an entry: the tree is a directory, and its entry has the room. -/
theorem Room.child {t : Tree} {name : Text} {rest : List Text} (h : t.Room (name :: rest)) :
    t.content? [] = none ∧ ((t.children.lookup name).getD empty).Room rest := by
  cases t with
  | file content =>
    have habove := h.above
    simp [obstacle?] at habove
  | directory cs =>
    refine ⟨rfl, ?_⟩
    have habove := h.above
    have hthere := h.there
    simp only [obstacle?, find?, children] at habove hthere ⊢
    cases hchild : cs.lookup name with
    | some child =>
      rw [hchild] at habove hthere
      exact ⟨Option.map_eq_none_iff.mp habove, hthere⟩
    | none => cases rest <;> exact ⟨by simp [obstacle?, empty], by simp [find?, children, empty]⟩

end Tree

namespace Site

/-- Two sites have the same files. -/
def SameFiles (s s' : Site) : Prop := ∀ place, s.tree.content? place = s'.tree.content? place

/-- The place of the file that a local location names; the empty location is the root. -/
def destination (s : Site) (location : Text) : List Text :=
  Location.segments (if location.isEmpty then [Text.slash] else s.pathOf location)

end Site

end RoleGraph
