import Mathlib.Data.List.Induction
import RoleGraph.Proofs.CleanPaths
import RoleGraph.Proofs.Trace

/-!
# One task file under several spellings

The location of a task file is built from the cleaned file name, its identifier from the base of the
name as it is written. Both are read off the pieces between the slashes: the location tells all the
segments that cleaning leaves, and the base of the cleaned name is the last of them. So two visits to
one location have one identifier as soon as cleaning keeps the base of their names, which only a
name that ends in `.` or `..` can prevent. A role is told from its location when it has no outer
slashes and no `tasks` directory of its own.
-/

namespace RoleGraph

open Text (slash)

namespace Text

/-- A text that neither starts nor ends with a slash has no outer slashes. -/
theorem trimSlashes_of_ends {t : Text} (hhead : t.head? ≠ some slash) (hlast : t.getLast? ≠ some slash) :
    trimSlashes t = t := by
  have hdrop : ∀ u : Text, u.head? ≠ some slash → u.dropWhile (· == slash) = u := by
    rintro (_ | ⟨b, rest⟩) hu
    · rfl
    · refine List.dropWhile_cons_of_neg fun hb => hu ?_
      rw [List.head?_cons, beq_iff_eq.mp hb]
  rw [trimSlashes, hdrop t hhead, dropRightWhile, hdrop _ (by rwa [List.head?_reverse]), List.reverse_reverse]

/-- An outer slash in front is trimmed. -/
theorem trimSlashes_cons (t : Text) : trimSlashes (slash :: t) = trimSlashes t := by
  simp [trimSlashes]

/-- What trimming leaves does not end in a slash. -/
theorem getLast?_trimSlashes (t : Text) : (trimSlashes t).getLast? ≠ some slash := by
  have hhead := List.head?_dropWhile_not (· == slash) (t.dropWhile (· == slash)).reverse
  intro h
  rw [trimSlashes, dropRightWhile, List.getLast?_reverse] at h
  rw [h] at hhead
  simp at hhead

/-- What stands before the first mark in a list is told by the list. -/
theorem before_mark_inj {x y u v : List Text} {mark : Text} (hx : mark ∉ x) (hy : mark ∉ y)
    (h : x ++ mark :: u = y ++ mark :: v) : x = y := by
  have hidx := congrArg (List.idxOf mark) h
  rw [List.idxOf_append_of_notMem hx, List.idxOf_append_of_notMem hy, List.idxOf_cons_self,
    List.idxOf_cons_self] at hidx
  exact (List.append_inj h (by omega)).1

end Text

namespace Location

variable {p q name : Text}

/-- The base of a name without slashes that stands alone or below a directory is that name. -/
theorem base_of_slash_free (hne : name ≠ []) (hfree : slash ∉ name) :
    base name = name ∧ ∀ dir, base (dir ++ slash :: name) = name := by
  have hkeep : ∀ b ∈ name.reverse, (b != slash) = true := by
    intro b hb
    rw [bne_iff_ne]
    rintro rfl
    exact hfree (List.mem_reverse.mp hb)
  have hdrop : ∀ before : Text, Text.dropRightWhile (· == slash) (before ++ name) = before ++ name := by
    intro before
    obtain ⟨b, rest, hrev⟩ := List.exists_cons_of_ne_nil (List.reverse_ne_nil_iff.mpr hne)
    have hb : ¬ (b == slash) = true := by
      have := hkeep b (hrev ▸ List.mem_cons_self)
      simpa using this
    have hstay : (b :: (rest ++ before.reverse)).dropWhile (· == slash) = b :: (rest ++ before.reverse) :=
      List.dropWhile_cons_of_neg hb
    rw [Text.dropRightWhile, List.reverse_append, hrev, List.cons_append, hstay, ← List.cons_append, ← hrev,
      ← List.reverse_append, List.reverse_reverse]
  have hbase : ∀ before : Text, (before.reverse.takeWhile (· != slash)) = [] → base (before ++ name) = name := by
    intro before hbefore
    have hwhole : before ++ name ≠ [] := List.append_ne_nil_of_right_ne_nil _ hne
    unfold base
    dsimp only
    rw [hdrop before, if_neg hwhole, if_neg hwhole, List.reverse_append,
      List.takeWhile_append_of_pos hkeep, hbefore, List.append_nil, List.reverse_reverse]
  constructor
  · exact hbase [] rfl
  · intro dir
    have := hbase (dir ++ [slash]) (by simp)
    rwa [List.append_assoc, List.singleton_append] at this

/-- A slash at the end does not change the base. -/
theorem base_append_slash (hp : p ≠ []) : base (p ++ [slash]) = base p := by
  have htrim : Text.dropRightWhile (· == slash) (p ++ [slash]) = Text.dropRightWhile (· == slash) p := by
    simp [Text.dropRightWhile]
  unfold base
  dsimp only
  rw [htrim, if_neg (List.append_ne_nil_of_left_ne_nil hp _), if_neg hp]

/-- The pieces of a path that are not empty. -/
def pieces (p : Text) : List Text := (Text.splitAt slash p).filter (· ≠ [])

/-- A slash in front adds no piece. -/
theorem pieces_cons_slash (p : Text) : pieces (slash :: p) = pieces p := by
  rw [pieces, Text.splitAt_cons_self, List.filter_cons_of_neg (by simp), pieces]

/-- A slash at the end adds no piece. -/
theorem pieces_append_slash (p : Text) : pieces (p ++ [slash]) = pieces p := by
  rw [pieces, Text.splitAt_append_cons, List.filter_append, pieces]
  simp [Text.splitAt]

/-- Outer slashes add no piece. -/
theorem pieces_trimSlashes (p : Text) : pieces (Text.trimSlashes p) = pieces p := by
  have hfront : ∀ t : Text, pieces (t.dropWhile (· == slash)) = pieces t := by
    intro t
    induction t with
    | nil => rfl
    | cons b rest ih =>
      by_cases hb : b = slash
      · rw [hb, pieces_cons_slash, ← ih]
        simp
      · simp [hb]
  have hend : ∀ t : Text, pieces (Text.dropRightWhile (· == slash) t) = pieces t := by
    intro t
    induction t using List.reverseRecOn with
    | nil => rfl
    | append_singleton t b ih =>
      by_cases hb : b = slash
      · rw [hb, pieces_append_slash, ← ih]
        simp [Text.dropRightWhile]
      · simp [Text.dropRightWhile, hb]
  rw [Text.trimSlashes, hend, hfront]

/-- A path with a slash has a last one. -/
theorem exists_last_slash (h : slash ∈ p) : ∃ dir rest, p = dir ++ slash :: rest ∧ slash ∉ rest := by
  obtain ⟨after, before, hrev, hafter⟩ := List.eq_append_cons_of_mem (List.mem_reverse.mpr h)
  refine ⟨before.reverse, after.reverse, ?_, mt List.mem_reverse.mp hafter⟩
  rw [← List.reverse_reverse p, hrev, List.reverse_append, List.reverse_cons, List.append_assoc]
  rfl

/-- The base of a path is its last piece, or a slash when it has none. -/
theorem base_eq_last (hp : p ≠ []) : base p = (pieces p).getLast?.getD [slash] := by
  induction p using List.reverseRecOn with
  | nil => contradiction
  | append_singleton p b ih =>
    by_cases hb : b = slash
    · subst hb
      by_cases hnil : p = []
      · subst hnil
        decide
      · rw [base_append_slash hnil, ih hnil, pieces_append_slash]
    · by_cases hfree : slash ∉ p ++ [b]
      · rw [(base_of_slash_free hp hfree).1, pieces, Text.splitAt_of_notMem hfree]
        simp
      · -- The last slash is inside `p`, so what follows it ends in `b`.
        have hmem : slash ∈ p := by
          rcases List.mem_append.mp (not_not.mp hfree) with hin | hin
          · exact hin
          · exact absurd (List.mem_singleton.mp hin).symm hb
        obtain ⟨dir, rest, rfl, hrest⟩ := exists_last_slash hmem
        have hname : slash ∉ rest ++ [b] := by
          rw [List.mem_append, List.mem_singleton]
          rintro (h | h)
          · exact hrest h
          · exact hb h.symm
        have hne : rest ++ [b] ≠ [] := List.append_ne_nil_of_right_ne_nil _ (List.cons_ne_nil _ _)
        rw [List.append_assoc, List.cons_append, (base_of_slash_free hne hname).2, pieces,
          Text.splitAt_append_cons, Text.splitAt_of_notMem hname, List.filter_append]
        simp

/-- What trimming leaves of a path tells its base. -/
theorem base_congr (hp : p ≠ []) (hq : q ≠ []) (h : Text.trimSlashes p = Text.trimSlashes q) :
    base p = base q := by
  rw [base_eq_last hp, base_eq_last hq, ← pieces_trimSlashes p, h, pieces_trimSlashes]

/-- The segments of a path are resolved from the pieces that are not empty. -/
theorem segments_eq_pieces (p : Text) : segments p = ((pieces p).foldl (push (isRooted p)) []).reverse := by
  have hfold : ∀ (ts stack : List Text),
      ts.foldl (push (isRooted p)) stack = (ts.filter (· ≠ [])).foldl (push (isRooted p)) stack := by
    intro ts
    induction ts with
    | nil => exact fun _ => rfl
    | cons t rest ih =>
      intro stack
      by_cases ht : t = []
      · rw [List.foldl_cons, push_dropped (Or.inl ht), List.filter_cons_of_neg (by simp [ht]), ih]
      · rw [List.filter_cons_of_pos (by simp [ht]), List.foldl_cons, List.foldl_cons, ih]
  rw [segments, hfold, pieces]

/-- A path with segments has a cleaned form with these pieces. -/
theorem pieces_clean (hp : segments p ≠ []) : pieces (clean p) = segments p := by
  have hresolved := resolved_of_mem_segments (p := p)
  have hjoin : pieces (Text.joinWith [slash] (segments p)) = segments p := by
    rw [pieces, Text.splitAt_joinWith hp fun s hs => (hresolved s hs).slash_free, List.filter_eq_self]
    intro s hs
    exact decide_eq_true (hresolved s hs).ne_nil
  rw [clean_of_segments hp]
  split_ifs with hrooted
  · rw [List.singleton_append, pieces, Text.splitAt_cons_self, List.filter_cons_of_neg (by simp), ← pieces, hjoin]
  · rw [List.nil_append, hjoin]

/-- What trimming leaves of a cleaned path is its segments, joined. -/
theorem trimSlashes_clean (hp : segments p ≠ []) :
    Text.trimSlashes (clean p) = Text.joinWith [slash] (segments p) := by
  have hresolved := resolved_of_mem_segments (p := p)
  obtain ⟨first, hfirst⟩ := Option.ne_none_iff_exists'.mp (mt List.head?_eq_none_iff.mp hp)
  obtain ⟨last, hlast⟩ := Option.ne_none_iff_exists'.mp (mt List.getLast?_eq_none_iff.mp hp)
  have hfirst' := hresolved first (List.mem_of_head? hfirst)
  have hlast' := hresolved last (List.mem_of_getLast? hlast)
  have hjoin : Text.trimSlashes (Text.joinWith [slash] (segments p)) = Text.joinWith [slash] (segments p) := by
    obtain ⟨⟨after, hafter⟩, before, hbefore⟩ := Text.joinWith_ends [slash] hfirst hlast
    apply Text.trimSlashes_of_ends
    · rw [hafter, List.head?_append_of_ne_nil _ hfirst'.ne_nil]
      exact fun h => hfirst'.slash_free (List.mem_of_head? h)
    · rw [hbefore, List.getLast?_append_of_ne_nil _ hlast'.ne_nil]
      exact fun h => hlast'.slash_free (List.mem_of_getLast? h)
  rw [clean_of_segments hp]
  split_ifs
  · rw [List.singleton_append, Text.trimSlashes_cons, hjoin]
  · rw [List.nil_append, hjoin]

/-- Paths with segments have the same ones exactly when trimming leaves the same of their cleaned
forms. -/
theorem trimSlashes_clean_inj (hp : segments p ≠ []) (hq : segments q ≠ []) :
    Text.trimSlashes (clean p) = Text.trimSlashes (clean q) ↔ segments p = segments q := by
  constructor
  · intro h
    rw [← pieces_clean hp, ← pieces_trimSlashes, h, pieces_trimSlashes, pieces_clean hq]
  · intro h
    rw [trimSlashes_clean hp, trimSlashes_clean hq, h]

/-- Cleaning leaves the base of a path as it is written. -/
def KeepsBase (p : Text) : Prop := base (clean p) = base p

/-- Whether cleaning keeps the base is found by cleaning. -/
instance (p : Text) : Decidable (KeepsBase p) := inferInstanceAs (Decidable (_ = _))

/-- A path of slashes alone is cleaned to a single one. -/
theorem clean_of_no_pieces (hp : p ≠ []) (h : pieces p = []) : clean p = [slash] := by
  have hsegments : segments p = [] := by
    rw [segments_eq_pieces, h]
    rfl
  have hrooted : isRooted p := by
    obtain ⟨b, rest, rfl⟩ := List.exists_cons_of_ne_nil hp
    by_contra hb
    have hb : b ≠ slash := by simpa [isRooted] using hb
    obtain ⟨piece, more, hsplit⟩ := List.exists_cons_of_ne_nil (Text.splitAt_ne_nil slash rest)
    rw [pieces, Text.splitAt_cons_of_ne hb hsplit] at h
    simp at h
  unfold clean
  dsimp only
  rw [joinWith_segments_eq_nil.mpr hsegments, if_pos hrooted]

/-- Only a path that ends in `.` or `..` can lose its base. -/
theorem keepsBase_of_base (hhere : base p ≠ here) (hup : base p ≠ up) : KeepsBase p := by
  have hp : p ≠ [] := by
    rintro rfl
    exact hhere rfl
  have hbase := base_eq_last hp
  by_cases hpieces : pieces p = []
  · rw [KeepsBase, clean_of_no_pieces hp hpieces, hbase, hpieces]
    decide
  · obtain ⟨init, last, hlast⟩ := (List.eq_nil_or_concat' (pieces p)).resolve_left hpieces
    rw [hlast, List.getLast?_concat, Option.getD_some] at hbase
    have hne : last ≠ [] := by
      have hmem : last ∈ pieces p := hlast ▸ List.mem_append_right _ (List.mem_singleton_self last)
      simpa using (List.mem_filter.mp hmem).2
    -- The last piece is pushed last and stays on top.
    have hpush : ¬ (last = [] ∨ last = here) := not_or.mpr ⟨hne, hbase ▸ hhere⟩
    have hsegments : segments p = (init.foldl (push (isRooted p)) []).reverse ++ [last] := by
      rw [segments_eq_pieces, hlast, List.foldl_concat, push_kept hpush (hbase ▸ hup), List.reverse_cons]
    have hsome : segments p ≠ [] := by
      rw [hsegments]
      exact List.append_ne_nil_of_right_ne_nil _ (List.cons_ne_nil _ _)
    rw [KeepsBase, base_eq_last (clean_ne_nil p), pieces_clean hsome, hsegments, List.getLast?_concat, hbase]
    rfl

/-- An element appended to an address that does not end in a slash loses its outer slashes. -/
theorem append_eq {b : Text} (h : b.getLast? ≠ some slash) (element : Text) :
    append b element = b ++ slash :: Text.trimSlashes element := by
  have hsuffix : ∀ {mark : Text}, mark.getLast? = some slash → mark.isSuffixOf b = false := by
    intro mark hmark
    rw [← Bool.not_eq_true]
    intro hb
    obtain ⟨before, rfl⟩ := List.isSuffixOf_iff_suffix.mp hb
    have hne : mark ≠ [] := by
      rintro rfl
      contradiction
    exact h (by rw [List.getLast?_append_of_ne_nil _ hne, hmark])
  unfold append
  dsimp only
  rw [hsuffix (by decide), if_neg Bool.false_ne_true, Text.dropTrailing, hsuffix rfl, if_neg Bool.false_ne_true]

/-- Below a directory, paths that stay there lead to one place exactly when they have the same
segments. -/
theorem clean_below_inj {dir : Text} (hdir : dir ≠ []) (hp : StaysBelow p) (hq : StaysBelow q) :
    clean (dir ++ slash :: p) = clean (dir ++ slash :: q) ↔ segments p = segments q := by
  have hrooted : isRooted (dir ++ slash :: p) = isRooted (dir ++ slash :: q) := by
    rw [isRooted, isRooted, List.head?_append_of_ne_nil _ hdir, List.head?_append_of_ne_nil _ hdir]
  have hbelow : ∀ {r : Text}, StaysBelow r →
      segments (dir ++ slash :: r) = segments dir ++ segments r ∧ segments (dir ++ slash :: r) ≠ [] := by
    intro r hr
    rw [segments_below hdir hr, segments_of_staysBelow hr]
    exact ⟨rfl, List.append_ne_nil_of_right_ne_nil _ hr.ne_nil⟩
  obtain ⟨hsegp, hnep⟩ := hbelow hp
  obtain ⟨hsegq, hneq⟩ := hbelow hq
  constructor
  · intro h
    have hsegments := segments_eq_of_clean hnep hneq hrooted h
    rw [hsegp, hsegq] at hsegments
    exact List.append_cancel_left hsegments
  · intro h
    rw [clean_of_segments hnep, clean_of_segments hneq, hrooted, hsegp, hsegq, h]

end Location

namespace Analysis

/-- A role without outer slashes and without a `tasks` directory of its own. -/
structure PlainRole (role : Text) : Prop where
  ne_nil : role ≠ []
  trimmed : Text.trimSlashes role = role
  tasks_free : Text.ofString "tasks" ∉ Text.splitAt slash role

/-- Whether a role is plain is read off its pieces. -/
instance (role : Text) : Decidable (PlainRole role) :=
  decidable_of_iff (role ≠ [] ∧ Text.trimSlashes role = role ∧ Text.ofString "tasks" ∉ Text.splitAt slash role)
    ⟨fun ⟨h, h', h''⟩ => ⟨h, h', h''⟩, fun h => ⟨h.ne_nil, h.trimmed, h.tasks_free⟩⟩

variable {opts : Options}

/-- The directory of the task files of a role ends in `tasks`. -/
theorem tasksDir_ends (opts : Options) (role : Text) :
    ∃ above, tasksDir opts role = above ++ slash :: Text.ofString "tasks" := ⟨_, rfl⟩

/-- A task file is below the directory of its role, under its cleaned name without outer slashes. -/
theorem TaskFile.location_eq (opts : Options) (f : TaskFile) :
    f.location opts = tasksDir opts f.role ++ slash :: Text.trimSlashes (Location.clean f.file) := by
  refine Location.append_eq ?_ _
  obtain ⟨above, habove⟩ := tasksDir_ends opts f.role
  rw [habove, List.getLast?_append_of_ne_nil _ (List.cons_ne_nil _ _)]
  decide

/-- Below the directory of all roles, the directory of a plain role is told by its name. -/
theorem PlainRole.tasksDir_eq (opts : Options) : ∃ above : Text, ∀ role, PlainRole role →
    tasksDir opts role = above ++ slash :: (role ++ slash :: Text.ofString "tasks") := by
  obtain ⟨above, habove⟩ : ∃ above, ∀ element,
      Location.append opts.rolesDir element = above ++ slash :: Text.trimSlashes element := ⟨_, fun _ => rfl⟩
  refine ⟨above, fun role hrole => ?_⟩
  have hdir : Location.append opts.rolesDir role = above ++ slash :: role := by
    rw [habove, hrole.trimmed]
  have hends : (Location.append opts.rolesDir role).getLast? ≠ some slash := by
    rw [hdir, List.getLast?_append_of_ne_nil _ (List.cons_ne_nil _ _), List.getLast?_cons_of_ne_nil hrole.ne_nil,
      ← hrole.trimmed]
    exact Text.getLast?_trimSlashes role
  rw [tasksDir, Location.append_eq hends, hdir, List.append_assoc]
  rfl

/-- Plain roles with a task file at one location are the same. -/
theorem PlainRole.eq_of_location {f g : TaskFile} (hf : PlainRole f.role) (hg : PlainRole g.role)
    (h : f.location opts = g.location opts) : f.role = g.role := by
  obtain ⟨above, habove⟩ := PlainRole.tasksDir_eq opts
  have hcut : ∀ (role rest : Text), Text.splitAt slash (role ++ slash :: (Text.ofString "tasks" ++ slash :: rest)) =
      Text.splitAt slash role ++ Text.ofString "tasks" :: Text.splitAt slash rest := by
    intro role rest
    rw [Text.splitAt_append_cons, Text.splitAt_append_cons]
    rfl
  rw [f.location_eq, g.location_eq, habove _ hf, habove _ hg] at h
  simp only [List.append_assoc, List.cons_append] at h
  have hpieces := congrArg (Text.splitAt slash) (List.cons.inj (List.append_cancel_left h)).2
  rw [hcut, hcut] at hpieces
  have hjoin : ∀ role : Text, Text.joinWith [slash] (Text.splitAt slash role) = role := Text.joinWith_splitAt
  rw [← hjoin f.role, Text.before_mark_inj hf.tasks_free hg.tasks_free hpieces, hjoin]

/-- Task files of one role at one location have the same cleaned name, outer slashes aside. -/
theorem TaskFile.trimSlashes_eq_of_location {f g : TaskFile} (hrole : f.role = g.role)
    (h : f.location opts = g.location opts) :
    Text.trimSlashes (Location.clean f.file) = Text.trimSlashes (Location.clean g.file) := by
  rw [f.location_eq, g.location_eq, hrole] at h
  exact (List.cons.inj (List.append_cancel_left h)).2

/-- Task files have one identifier exactly when they have one role and one base name. -/
theorem TaskFile.id_eq_iff {f g : TaskFile} :
    f.id = g.id ↔ f.role = g.role ∧ Location.base f.file = Location.base g.file := by
  constructor
  · exact Node.taskId_inj
  · rintro ⟨hrole, hbase⟩
    rw [id, id, Node.taskId, Node.taskId, hrole, hbase]

/-- Task files are told apart by location and by identifier alike. Take two visits of one role or of
plain roles. When they are to one location and cleaning keeps the base of the first name, they have
one identifier exactly when it keeps the base of the second one too. When they are of one role and
their names stay below its directory, they are to one location exactly when the two paths have one
cleaned form. -/
theorem TaskFile.identity_canonical (opts : Options) (f g : TaskFile) :
    (f.role = g.role ∨ PlainRole f.role ∧ PlainRole g.role → f.location opts = g.location opts →
      Location.KeepsBase f.file → (f.id = g.id ↔ Location.KeepsBase g.file)) ∧
    (f.role = g.role → Location.StaysBelow f.file → Location.StaysBelow g.file →
      (Location.clean (tasksDir opts f.role ++ slash :: f.file) =
          Location.clean (tasksDir opts g.role ++ slash :: g.file) ↔
        f.location opts = g.location opts)) := by
  constructor
  · intro hroles hlocation hkeeps
    have hrole : f.role = g.role := hroles.elim (fun h => h) fun ⟨hf, hg⟩ => hf.eq_of_location hg hlocation
    have hclean : Location.base (Location.clean f.file) = Location.base (Location.clean g.file) :=
      Location.base_congr (Location.clean_ne_nil _) (Location.clean_ne_nil _)
        (TaskFile.trimSlashes_eq_of_location hrole hlocation)
    rw [TaskFile.id_eq_iff, ← hkeeps, hclean]
    exact and_iff_right hrole
  · intro hrole hf hg
    have hdir : tasksDir opts g.role ≠ [] := by
      obtain ⟨above, habove⟩ := tasksDir_ends opts g.role
      rw [habove]
      exact List.append_ne_nil_of_right_ne_nil _ (List.cons_ne_nil _ _)
    have hsegments : ∀ {p : Text}, Location.StaysBelow p → Location.segments p ≠ [] := by
      intro p hp
      rw [Location.segments_of_staysBelow hp]
      exact hp.ne_nil
    rw [hrole, Location.clean_below_inj hdir hf hg, ← Location.trimSlashes_clean_inj (hsegments hf) (hsegments hg)]
    constructor
    · intro htrim
      rw [f.location_eq, g.location_eq, hrole, htrim]
    · exact TaskFile.trimSlashes_eq_of_location hrole

/-- `sub/../a.yml` and `./a.yml` of a plain role are one file: they keep their base `a.yml`, stay below
the directory of the role and lead to one place. -/
theorem TaskFile.identity_canonical_dotted :
    let opts : Options := { rolesDir := "/roles" }
    let f : TaskFile := ⟨"r", {}, "sub/../a.yml"⟩
    let g : TaskFile := ⟨"r", {}, "./a.yml"⟩
    f.location opts = "/roles/r/tasks/a.yml" ∧ f.location opts = g.location opts ∧ f.id = g.id := by
  intro opts f g
  have hkeepsf : Location.KeepsBase f.file := Location.keepsBase_of_base (by decide +kernel) (by decide +kernel)
  have hkeepsg : Location.KeepsBase g.file := Location.keepsBase_of_base (by decide +kernel) (by decide +kernel)
  obtain ⟨hplain, hbelowf, hbelowg, hclean, hlocation⟩ :
      PlainRole f.role ∧ Location.StaysBelow f.file ∧ Location.StaysBelow g.file ∧
        Location.clean (tasksDir opts f.role ++ slash :: f.file) =
          Location.clean (tasksDir opts g.role ++ slash :: g.file) ∧
        f.location opts = "/roles/r/tasks/a.yml" := by
    decide +kernel
  obtain ⟨hid, hplace⟩ := TaskFile.identity_canonical opts f g
  have hsame : f.location opts = g.location opts := (hplace rfl hbelowf hbelowg).mp hclean
  exact ⟨hlocation, hsame, (hid (Or.inr ⟨hplain, hplain⟩) hsame hkeepsf).mpr hkeepsg⟩

/-- Without these conditions the two notions come apart: `a.yml/.` has the location of `a.yml` and an
identifier of its own, and so has the main file of the role `r/` beside that of `r`, while
`../tasks/a.yml` leads from the directory of the role to the same place as `a.yml` and has a location
of its own. -/
theorem TaskFile.identity_not_canonical :
    let opts : Options := { rolesDir := "/roles" }
    let f : TaskFile := ⟨"r", {}, "a.yml"⟩
    let dotted : TaskFile := ⟨"r", {}, "a.yml/."⟩
    let climbing : TaskFile := ⟨"r", {}, "../tasks/a.yml"⟩
    let main : TaskFile := ⟨"r", {}, mainFile⟩
    let slashed : TaskFile := ⟨"r/", {}, mainFile⟩
    (f.location opts = dotted.location opts ∧ f.id ≠ dotted.id) ∧
      (main.location opts = slashed.location opts ∧ main.id ≠ slashed.id) ∧
      (f.role = climbing.role ∧
        Location.clean (tasksDir opts f.role ++ slash :: f.file) =
          Location.clean (tasksDir opts climbing.role ++ slash :: climbing.file) ∧
        f.location opts ≠ climbing.location opts) := by
  decide +kernel

end Analysis

end RoleGraph
