import Mathlib.Data.List.Basic
import Mathlib.Data.List.TakeWhile
import RoleGraph.Graph.Node

/-!
# What an identifier stands for

The identifier of a task file ends in a base name, and a base name is a single slash or has no slash
at all. The last slash therefore tells the role from the base name, although both are free text and
a role may have slashes of its own. Playbooks and task files begin differently, so no identifier
stands for both.
-/

namespace RoleGraph

open Text (slash)

namespace Location

/-- What remains after leading slashes were dropped does not begin with one. -/
theorem ne_slash_of_dropWhile {t : Text} {b : UInt8} {rest : Text}
    (h : t.dropWhile (· == slash) = b :: rest) : b ≠ slash := by
  have hhead := List.head?_dropWhile_not (· == slash) t
  rw [h] at hhead
  simpa using hhead

/-- A base name is a single slash, or it is not empty and has no slash. -/
theorem base_cases (p : Text) : base p = [slash] ∨ base p ≠ [] ∧ slash ∉ base p := by
  unfold base
  dsimp only
  split_ifs with hempty htrimmed
  · right
    decide
  · left
    rfl
  · right
    obtain ⟨b, rest, hrest⟩ : ∃ b rest, p.reverse.dropWhile (· == slash) = b :: rest := by
      rw [← List.ne_nil_iff_exists_cons]
      simpa [Text.dropRightWhile] using htrimmed
    have hb : b ≠ slash := ne_slash_of_dropWhile hrest
    rw [Text.dropRightWhile, List.reverse_reverse, hrest]
    constructor
    · simp [hb]
    · intro hmem
      have := List.mem_takeWhile_imp (List.mem_reverse.mp hmem)
      simp at this

/-- A text without slashes is told from what stands before the slash in front of it. -/
theorem slash_append_inj {before before' last last' : Text} (h : slash ∉ last) (h' : slash ∉ last')
    (heq : before ++ slash :: last = before' ++ slash :: last') : before = before' ∧ last = last' := by
  have htake : ∀ (pre : Text) {suf : Text}, slash ∉ suf →
      (pre ++ slash :: suf).reverse.takeWhile (· != slash) = suf.reverse := by
    intro pre suf hsuf
    have hall : ∀ b ∈ suf.reverse, (b != slash) = true := by
      intro b hb
      rw [bne_iff_ne]
      rintro rfl
      exact hsuf (List.mem_reverse.mp hb)
    simp [List.takeWhile_append_of_pos hall]
  have hlast : last = last' := by
    rw [← List.reverse_inj, ← htake before h, ← htake before' h', heq]
  subst hlast
  exact ⟨List.append_cancel_right heq, rfl⟩

end Location

namespace Node

/-- The identifier of a task file tells its role and the base name of the file. -/
theorem taskId_inj {role role' file file' : Text} (h : taskId role file = taskId role' file') :
    role = role' ∧ Location.base file = Location.base file' := by
  have heq : role ++ slash :: Location.base file = role' ++ slash :: Location.base file' := by
    have hshape : ∀ r b : Text, Text.ofString "role/" ++ r ++ Text.ofString "/" ++ b =
        Text.ofString "role/" ++ (r ++ slash :: b) := by
      intro r b
      simp only [List.append_assoc]
      rfl
    unfold taskId at h
    rw [hshape, hshape] at h
    exact List.append_cancel_left h
  -- A base name that is a slash is the only one that ends in a slash.
  have hends : ∀ {r r' b : Text}, b ≠ [] → slash ∉ b → r ++ slash :: [slash] ≠ r' ++ slash :: b := by
    intro r r' b hne hb heq
    have hlast := congrArg List.getLast? heq
    rw [List.getLast?_append_of_ne_nil _ (by simp), List.getLast?_append_of_ne_nil _ (by simp),
      List.getLast?_cons_of_ne_nil hne] at hlast
    exact hb (List.mem_of_getLast? hlast.symm)
  rcases Location.base_cases file with hbase | ⟨hne, hfree⟩ <;>
    rcases Location.base_cases file' with hbase' | ⟨hne', hfree'⟩
  · rw [hbase, hbase'] at heq ⊢
    exact ⟨List.append_cancel_right heq, rfl⟩
  · rw [hbase] at heq
    exact absurd heq (hends hne' hfree')
  · rw [hbase'] at heq
    exact absurd heq.symm (hends hne hfree)
  · exact Location.slash_append_inj hfree hfree' heq

/-- No task file has the identifier of a playbook. -/
theorem taskId_ne_playbookId (role file location : Text) : taskId role file ≠ playbookId location := by
  intro h
  have hhead : some (Text.byte 'r') = some (Text.byte 'p') := congrArg List.head? h
  exact absurd hhead (by decide)

/-- An identifier tells a task file by its role and the base name of the file, and from every playbook. -/
theorem taskId_identifies (role role' file file' : Text) :
    (taskId role file = taskId role' file' ↔ role = role' ∧ Location.base file = Location.base file') ∧
      ∀ location, taskId role file ≠ playbookId location := by
  refine ⟨⟨taskId_inj, ?_⟩, taskId_ne_playbookId role file⟩
  rintro ⟨rfl, hbase⟩
  rw [taskId, taskId, hbase]

end Node

end RoleGraph
