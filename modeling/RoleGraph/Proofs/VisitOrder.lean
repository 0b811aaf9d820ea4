import Mathlib.Logic.Relation
import RoleGraph.Proofs.CandidateSearch

/-!
# Visits in any order

A tree is visited entry by entry. The visitor finds something at an entry or not, and says whether the
entries below are to be visited too; which of the pending entries comes next is left open. What was found
and what is still to be found at the pending entries are together always the same, up to their order. So
visits that leave nothing pending have found what a walk in the order of the listings finds.
-/

namespace RoleGraph

namespace Candidates

variable {r : Rules}

/-- An entry that is still to be visited, with the directory that it is in. -/
structure Pending where
  parent : Text
  name : Text
  tree : Tree

/-- The entries of a directory are to be visited. -/
def pendingOf (parent : Text) (cs : List (Text × Tree)) : List Pending := cs.map fun c => ⟨parent, c.1, c.2⟩

/-- The visitor: what it finds at an entry, and whether it wants to see what is below. -/
def Rules.visit (r : Rules) (parent name : Text) (isDirectory : Bool) : List Found × Bool :=
  let relative := below parent name
  if r.ignores relative isDirectory then ([], false)
  else if isDirectory ∧ r.locate relative = r.rolesDir then ([.rolesDir (r.locate relative)], false)
  else if !r.matcher.visits name isDirectory then ([], false)
  else if isDirectory then ([], true)
  else ([.candidate (r.locate relative)], true)

/-- The visitor at a file. -/
theorem Rules.visit_file (r : Rules) (parent name : Text) : r.visit parent name false =
    if r.ignores (below parent name) false || !r.matcher.accepts name then ([], false)
    else ([.candidate (r.locate (below parent name))], true) := by
  unfold Rules.visit Matcher.visits
  cases r.matcher.accepts name <;> simp

/-- The visitor at a directory. -/
theorem Rules.visit_directory (r : Rules) (parent name : Text) : r.visit parent name true =
    if r.ignores (below parent name) true then ([], false)
    else if r.locate (below parent name) = r.rolesDir then ([.rolesDir (r.locate (below parent name))], false)
    else ([], true) := by
  simp [Rules.visit, Matcher.visits]

namespace Pending

/-- What the visitor finds at an entry. -/
def seen (r : Rules) (p : Pending) : List Found := (r.visit p.parent p.name p.tree.isDirectory).1

/-- The entries that are to be visited because an entry was. -/
def opened (r : Rules) (p : Pending) : List Pending :=
  if (r.visit p.parent p.name p.tree.isDirectory).2 then pendingOf (below p.parent p.name) p.tree.children else []

/-- What a walk finds at an entry and below it. -/
def walk (r : Rules) (p : Pending) : List Found := Candidates.walk r p.parent p.name p.tree

/-- A walk of the entries of a directory finds what walks of each find. -/
theorem flatMap_pendingOf (r : Rules) (parent : Text) (cs : List (Text × Tree)) :
    (pendingOf parent cs).flatMap (walk r) = walkAll r parent cs := by
  rw [walkAll_eq_flatMap, pendingOf, List.flatMap_map]
  rfl

/-- A walk finds what the visitor does, and what it finds at the entries that the visitor opens. -/
theorem walk_eq (r : Rules) (p : Pending) : p.walk r = p.seen r ++ (p.opened r).flatMap (walk r) := by
  obtain ⟨parent, name, t⟩ := p
  cases t with
  | file content =>
    have hvisit : r.visit parent name (Tree.file content).isDirectory = _ := r.visit_file parent name
    rw [walk, Candidates.walk]
    dsimp only
    split_ifs at hvisit ⊢
    · simp only [seen, opened, hvisit]
      rfl
    · simp only [seen, opened, hvisit]
      rfl
  | directory cs =>
    have hvisit : r.visit parent name (Tree.directory cs).isDirectory = _ := r.visit_directory parent name
    rw [walk, Candidates.walk]
    dsimp only
    split_ifs at hvisit ⊢
    · simp only [seen, opened, hvisit]
      rfl
    · simp only [seen, opened, hvisit]
      rfl
    · simp only [seen, opened, hvisit, if_true, Tree.children, flatMap_pendingOf, List.nil_append]

end Pending

/-- One visit, of any of the entries that are still to be visited. -/
inductive Visit (r : Rules) : List Pending × List Found → List Pending × List Found → Prop
  | visit {pending rest : List Pending} {p : Pending} {found : List Found} (hpick : pending.Perm (p :: rest)) :
      Visit r (pending, found) (p.opened r ++ rest, found ++ p.seen r)

/-- What was found, with what is still to be found at the pending entries. -/
def outlook (r : Rules) (progress : List Pending × List Found) : List Found :=
  progress.2 ++ progress.1.flatMap (Pending.walk r)

/-- A visit does not change what will have been found. -/
theorem Visit.perm {a b : List Pending × List Found} (h : Visit r a b) : (outlook r a).Perm (outlook r b) := by
  cases h with
  | @visit pending rest p found hpick =>
    have hwalk : (pending.flatMap (Pending.walk r)).Perm
        (p.seen r ++ ((p.opened r).flatMap (Pending.walk r) ++ rest.flatMap (Pending.walk r))) := by
      have hall := hpick.flatMap_right (Pending.walk r)
      rwa [List.flatMap_cons, Pending.walk_eq, List.append_assoc] at hall
    rw [outlook, outlook, List.flatMap_append, List.append_assoc]
    exact hwalk.append_left found

/-- Visits do not change what will have been found. -/
theorem visits_perm {a b : List Pending × List Found} (h : Relation.ReflTransGen (Visit r) a b) :
    (outlook r a).Perm (outlook r b) := by
  induction h with
  | refl => exact .refl _
  | tail _ hvisit ih => exact ih.trans hvisit.perm

mutual

/-- Entries below one that is visited may be visited right after it, before all others. -/
theorem visits_entry (r : Rules) (parent name : Text) (t : Tree) (rest : List Pending) (found : List Found) :
    Relation.ReflTransGen (Visit r) (⟨parent, name, t⟩ :: rest, found) (rest, found ++ walk r parent name t) := by
  have hvisit : Visit r (⟨parent, name, t⟩ :: rest, found) _ := .visit (.refl _)
  have hwalk := Pending.walk_eq r ⟨parent, name, t⟩
  cases t with
  | file content =>
    have hopened : Pending.opened r ⟨parent, name, .file content⟩ = [] := by
      simp [Pending.opened, pendingOf, Tree.children]
    rw [Pending.walk, hopened, List.flatMap_nil, List.append_nil] at hwalk
    rw [hopened, ← hwalk] at hvisit
    exact .single hvisit
  | directory cs =>
    by_cases henters : (r.visit parent name true).2 = true
    · have hopened : Pending.opened r ⟨parent, name, .directory cs⟩ = pendingOf (below parent name) cs := if_pos henters
      rw [Pending.walk, hopened, Pending.flatMap_pendingOf] at hwalk
      rw [hopened] at hvisit
      rw [hwalk, ← List.append_assoc]
      exact .head hvisit (visits_entries r (below parent name) cs rest _)
    · have hopened : Pending.opened r ⟨parent, name, .directory cs⟩ = [] := if_neg henters
      rw [Pending.walk, hopened, List.flatMap_nil, List.append_nil] at hwalk
      rw [hopened, ← hwalk] at hvisit
      exact .single hvisit

/-- The entries of a directory may be visited in the order of the listing, before all others. -/
theorem visits_entries (r : Rules) (parent : Text) (cs : List (Text × Tree)) (rest : List Pending)
    (found : List Found) :
    Relation.ReflTransGen (Visit r) (pendingOf parent cs ++ rest, found) (rest, found ++ walkAll r parent cs) := by
  cases cs with
  | nil =>
    rw [walkAll, List.append_nil]
    exact .refl
  | cons c others =>
    obtain ⟨name, t⟩ := c
    rw [walkAll, ← List.append_assoc]
    exact (visits_entry r parent name t (pendingOf parent others ++ rest) found).trans
      (visits_entries r parent others rest _)

end

/-- Everything was visited, starting with the entries of the root, and this was found. -/
def Visits (r : Rules) (cs : List (Text × Tree)) (found : List Found) : Prop :=
  Relation.ReflTransGen (Visit r) (pendingOf [] cs, []) ([], found)

/-- Everything can be visited. -/
theorem exists_visits (r : Rules) (cs : List (Text × Tree)) : ∃ found, Visits r cs found := by
  have hvisits := visits_entries r [] cs [] []
  rw [List.append_nil] at hvisits
  exact ⟨_, hvisits⟩

/-- Visits in any order find what a walk does. -/
theorem Visits.perm {cs : List (Text × Tree)} {found : List Found} (h : Visits r cs found) :
    found.Perm (walkAll r [] cs) := by
  have hperm := visits_perm h
  simp only [outlook, List.nil_append, List.flatMap_nil, List.append_nil, Pending.flatMap_pendingOf] at hperm
  exact hperm.symm

end Candidates

end RoleGraph
