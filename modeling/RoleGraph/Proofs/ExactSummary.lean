import Mathlib.Algebra.BigOperators.Group.List.Lemmas
import Mathlib.Data.Finset.Dedup
import Mathlib.Data.List.Sort
import RoleGraph.Proofs.GraphOperations
import RoleGraph.Report.Basic

/-!
# The exact summary of a graph

What a summary has to say is told without any order in which nodes and edges came: how many there are,
which entries each of the two lists has, and how the entries are ranked. Ranks are strict, because the
identifiers of a graph differ and a role has one entry. So there is one list in order of rank with
given entries and only one summary that tells the truth, and two graphs with the same nodes and the
same calls have the same summary.
-/

namespace RoleGraph

section Rank

/-- The larger count goes first, and of equal counts the smaller name. -/
def Outranks (a b : ℕ × Text) : Prop := b.1 < a.1 ∨ a.1 = b.1 ∧ a.2 < b.2

/-- Entries are in strict order of their ranks. -/
def Ranked {α : Type} (rank : α → ℕ × Text) (entries : List α) : Prop :=
  entries.Pairwise fun a b => Outranks (rank a) (rank b)

/-- The order for sorting, read as a relation. -/
theorem rankBefore_iff {a b : ℕ × Text} :
    rankBefore a.1 a.2 b.1 b.2 = true ↔ b.1 < a.1 ∨ a.1 = b.1 ∧ a.2 ≤ b.2 := by
  unfold rankBefore
  split_ifs with heq
  · simp [Text.le, heq]
  · simp [heq]

/-- Nothing outranks what outranks it. -/
theorem Outranks.asymm {a b : ℕ × Text} (h : Outranks a b) : ¬ Outranks b a := by
  rintro (h' | ⟨heq', hname'⟩)
  · rcases h with h | ⟨heq, -⟩ <;> omega
  · rcases h with h | ⟨-, hname⟩
    · omega
    · exact List.lt_asymm hname hname'

variable {α : Type} {rank : α → ℕ × Text} {entries entries' : List α}

/-- Entries in strict order are known by what they are. -/
theorem Ranked.eq_of_mem_iff (h : Ranked rank entries) (h' : Ranked rank entries')
    (hmem : ∀ a, a ∈ entries ↔ a ∈ entries') : entries = entries' := by
  have hirrefl : Std.Irrefl fun a b => Outranks (rank a) (rank b) := ⟨fun a hself => hself.asymm hself⟩
  have hantisymm : Std.Antisymm fun a b => Outranks (rank a) (rank b) :=
    ⟨fun a b hab hba => absurd hba hab.asymm⟩
  exact List.Pairwise.eq_of_mem_iff h h' hmem

/-- Entries of different names are sorted into strict order. -/
theorem ranked_mergeSort (rank : α → ℕ × Text) (h : (entries.map fun a => (rank a).2).Nodup) :
    Ranked rank (entries.mergeSort fun a b => rankBefore (rank a).1 (rank a).2 (rank b).1 (rank b).2) := by
  have hsorted := @List.pairwise_mergeSort _
    (fun a b => rankBefore (rank a).1 (rank a).2 (rank b).1 (rank b).2) (fun a b c hab hbc => ?_)
    (fun a b => ?_) entries
  · have hperm := List.mergeSort_perm entries
      fun a b => rankBefore (rank a).1 (rank a).2 (rank b).1 (rank b).2
    have hnames := List.pairwise_map.mp ((hperm.map fun a => (rank a).2).nodup_iff.mpr h)
    refine hsorted.imp₂ (fun a b hbefore hne => ?_) hnames
    rcases rankBefore_iff.mp hbefore with hlt | ⟨heq, hle⟩
    · exact Or.inl hlt
    · exact Or.inr ⟨heq, Std.lt_of_le_of_ne hle hne⟩
  · rw [rankBefore_iff] at hab hbc ⊢
    rcases hab with hab | ⟨hab, hle⟩
    · exact Or.inl (by omega)
    · rcases hbc with hbc | ⟨hbc, hle'⟩
      · exact Or.inl (by omega)
      · exact Or.inr ⟨hab.trans hbc, List.le_trans hle hle'⟩
  · rw [Bool.or_eq_true, rankBefore_iff, rankBefore_iff]
    rcases Nat.lt_trichotomy (rank a).1 (rank b).1 with hlt | heq | hlt
    · exact Or.inr (Or.inl hlt)
    · exact (List.le_total (rank a).2 (rank b).2).imp (fun hle => Or.inr ⟨heq, hle⟩) fun hle => Or.inr ⟨heq.symm, hle⟩
    · exact Or.inl (Or.inl hlt)

end Rank

/-- Each element once, at its last occurrence. -/
theorem distinct_eq_dedup (texts : List Text) : distinct texts = texts.dedup := by
  induction texts with
  | nil => rfl
  | cons t rest ih =>
    by_cases ht : t ∈ rest
    · rw [distinct, if_pos ht, ih, List.dedup_cons_of_mem ht]
    · rw [distinct, if_neg ht, ih, List.dedup_cons_of_notMem ht]

/-- The rank of a hotspot. -/
def Hotspot.rank (h : Hotspot) : ℕ × Text := (h.callers, h.id)

/-- The rank of a role. -/
def RoleSize.rank (r : RoleSize) : ℕ × Text := (r.taskFiles, r.role)

namespace Graph.Store

/-- A task file that is called, with the number of edges to it and of the identifiers it calls. -/
structure IsHotspot (s : Store) (h : Hotspot) : Prop where
  stored : ∃ n ∈ s.nodes, n.kind = .task ∧ n.id = h.id ∧ n.role = h.role
  callers : h.callers = (s.edges.filter (·.target.id == h.id)).length
  called : 0 < h.callers
  callees : h.callees = ((s.edges.filter (·.source.id == h.id)).map (·.target.id)).toFinset.card

/-- A role that has task files, with their number. -/
structure IsRoleSize (s : Store) (r : RoleSize) : Prop where
  stored : ∃ n ∈ s.nodes, n.kind = .task ∧ n.role = r.role
  taskFiles : r.taskFiles = s.nodes.countP fun n => n.kind == .task && n.role == r.role

/-- A summary tells the truth about a graph. -/
structure SummarizedBy (s : Store) (top : ℤ) (told : Summary) : Prop where
  playbooks : told.playbooks = s.nodes.countP (·.kind == .playbook)
  taskFiles : told.taskFiles = s.nodes.countP (·.kind == .task)
  edges : told.edges = s.edges.length
  roles : told.roles = told.roleSizes.length
  mem_roleSizes : ∀ r, r ∈ told.roleSizes ↔ s.IsRoleSize r
  /-- No role has two entries. -/
  roleSizes_nodup : (told.roleSizes.map (·.role)).Nodup
  roleSizes_ranked : Ranked RoleSize.rank told.roleSizes
  /-- The roles share all task files among them. -/
  roleSizes_sum : (told.roleSizes.map (·.taskFiles)).sum = told.taskFiles
  /-- The hotspots are the first ones of all; a limit below one keeps them all. -/
  hotspots : ∃ all, (∀ h, h ∈ all ↔ s.IsHotspot h) ∧ Ranked Hotspot.rank all ∧
    told.hotspots = if top < 1 then all else all.take top.toNat

variable {s s' : Store} {top : ℤ}

/-- There is one summary only that tells the truth. -/
theorem SummarizedBy.unique {told told' : Summary} (h : s.SummarizedBy top told)
    (h' : s.SummarizedBy top told') : told = told' := by
  have hroles : told.roleSizes = told'.roleSizes :=
    h.roleSizes_ranked.eq_of_mem_iff h'.roleSizes_ranked fun r => (h.mem_roleSizes r).trans (h'.mem_roleSizes r).symm
  have hhotspots : told.hotspots = told'.hotspots := by
    obtain ⟨all, hmem, hranked, heq⟩ := h.hotspots
    obtain ⟨all', hmem', hranked', heq'⟩ := h'.hotspots
    rw [heq, heq', hranked.eq_of_mem_iff hranked' fun spot => (hmem spot).trans (hmem' spot).symm]
  rw [Summary.mk.injEq]
  exact ⟨h.playbooks.trans h'.playbooks.symm, h.taskFiles.trans h'.taskFiles.symm,
    h.roles.trans ((congrArg List.length hroles).trans h'.roles.symm), h.edges.trans h'.edges.symm, hhotspots,
    hroles⟩

/-- A graph with the same nodes and edges in another order has the same hotspots. -/
theorem IsHotspot.congr {h : Hotspot} (hnodes : ∀ n, n ∈ s.nodes ↔ n ∈ s'.nodes) (hedges : s.edges.Perm s'.edges)
    (hspot : s.IsHotspot h) : s'.IsHotspot h := by
  obtain ⟨n, hn, hfields⟩ := hspot.stored
  refine ⟨⟨n, (hnodes n).mp hn, hfields⟩, ?_, hspot.called, ?_⟩
  · rw [hspot.callers, (hedges.filter _).length_eq]
  · rw [hspot.callees, List.toFinset_eq_of_perm _ _ ((hedges.filter _).map _)]

/-- A graph with the same nodes in another order has the same roles. -/
theorem IsRoleSize.congr {r : RoleSize} (hnodes : s.nodes.Perm s'.nodes) (hsize : s.IsRoleSize r) :
    s'.IsRoleSize r := by
  obtain ⟨n, hn, hfields⟩ := hsize.stored
  exact ⟨⟨n, hnodes.mem_iff.mp hn, hfields⟩, hsize.taskFiles.trans (hnodes.countP_eq _)⟩

/-- What is true of a graph is true of one with the same nodes and edges in another order. -/
theorem SummarizedBy.congr {told : Summary} (hnodes : s.nodes.Perm s'.nodes) (hedges : s.edges.Perm s'.edges)
    (h : s.SummarizedBy top told) : s'.SummarizedBy top told where
  playbooks := h.playbooks.trans (hnodes.countP_eq _)
  taskFiles := h.taskFiles.trans (hnodes.countP_eq _)
  edges := h.edges.trans hedges.length_eq
  roles := h.roles
  mem_roleSizes r := (h.mem_roleSizes r).trans ⟨.congr hnodes, .congr hnodes.symm⟩
  roleSizes_nodup := h.roleSizes_nodup
  roleSizes_ranked := h.roleSizes_ranked
  roleSizes_sum := h.roleSizes_sum
  hotspots := by
    obtain ⟨all, hmem, hall⟩ := h.hotspots
    refine ⟨all, fun spot => (hmem spot).trans ⟨.congr (fun n => hnodes.mem_iff) hedges, ?_⟩, hall⟩
    exact .congr (fun n => hnodes.mem_iff.symm) hedges.symm

/-- The task nodes of a role are counted among all nodes. -/
theorem count_taskRoles (s : Store) (role : Text) :
    (s.taskNodes.map (·.role)).count role = s.nodes.countP fun n => n.kind == .task && n.role == role := by
  rw [List.count, List.countP_map, taskNodes, List.countP_filter]
  congr 1
  funext n
  exact Bool.and_comm _ _

/-- The roles of a summary are those of the task nodes. -/
theorem mem_roleSizes (s : Store) (r : RoleSize) : r ∈ s.roleSizes ↔ s.IsRoleSize r := by
  unfold roleSizes
  rw [List.mem_mergeSort, List.mem_map]
  constructor
  · rintro ⟨role, hrole, rfl⟩
    rw [distinct_eq_dedup, List.mem_dedup] at hrole
    obtain ⟨n, hn, rfl⟩ := List.mem_map.mp hrole
    obtain ⟨hmem, hkind⟩ := List.mem_filter.mp hn
    exact ⟨⟨n, hmem, by simpa using hkind, rfl⟩, s.count_taskRoles n.role⟩
  · rintro ⟨⟨n, hmem, hkind, hrole⟩, hcount⟩
    refine ⟨r.role, ?_, ?_⟩
    · rw [distinct_eq_dedup, List.mem_dedup]
      exact List.mem_map.mpr ⟨n, List.mem_filter.mpr ⟨hmem, by simp [hkind]⟩, hrole⟩
    · rw [count_taskRoles, ← hcount]

/-- The entries of the roles before they are sorted have different names and share all task nodes. -/
theorem roleSizes_unsorted (s : Store) :
    let roles := s.taskNodes.map (·.role)
    let sizes := (distinct roles).map fun role => (⟨role, roles.count role⟩ : RoleSize)
    s.roleSizes.Perm sizes ∧ (sizes.map (·.role)).Nodup ∧ (sizes.map (·.taskFiles)).sum = s.taskNodes.length := by
  intro roles sizes
  refine ⟨List.mergeSort_perm _ _, ?_, ?_⟩
  · rw [List.map_map, distinct_eq_dedup]
    exact (List.map_id _).symm ▸ List.nodup_dedup roles
  · rw [List.map_map, distinct_eq_dedup]
    have hsum := sum_count_keys (List.nodup_dedup roles) fun role hrole => List.mem_dedup.mpr hrole
    exact hsum.trans (List.length_map _)

end Graph.Store

namespace Graph

/-- The hotspots of a graph are its task files with a caller. -/
theorem mem_hotspots (g : Graph) (h : Hotspot) : h ∈ g.hotspots ↔ g.IsHotspot h := by
  have hspot : ∀ n : Node, g.hotspot n =
      ⟨n.id, n.role, (g.edges.filter (·.target.id == n.id)).length,
        ((g.edges.filter (·.source.id == n.id)).map (·.target.id)).toFinset.card⟩ := by
    intro n
    rw [Store.hotspot, inDegree_eq, Store.successors, distinct_eq_dedup, List.card_toFinset,
      List.countP_eq_length_filter]
  unfold Store.hotspots
  rw [List.mem_mergeSort, List.mem_filter, List.mem_map]
  constructor
  · rintro ⟨⟨n, hn, rfl⟩, hcalled⟩
    obtain ⟨hmem, hkind⟩ := List.mem_filter.mp hn
    have hcalled : 0 < (g.hotspot n).callers := by simpa using hcalled
    rw [hspot] at hcalled ⊢
    exact ⟨⟨n, hmem, by simpa using hkind, rfl, rfl⟩, rfl, hcalled, rfl⟩
  · rintro ⟨⟨n, hmem, hkind, hid, hrole⟩, hcallers, hcalled, hcallees⟩
    refine ⟨⟨n, List.mem_filter.mpr ⟨hmem, by simp [hkind]⟩, ?_⟩, by simpa using hcalled⟩
    rw [hspot, hid, hrole, ← hcallers, ← hcallees]

/-- The summary of a graph with different identifiers tells the truth. -/
theorem summarizedBy_summary {g : Graph} (hnodup : g.ids.Nodup) (top : ℤ) : g.SummarizedBy top (g.summary top) := by
  obtain ⟨hperm, hnames, hsum⟩ := g.roleSizes_unsorted
  refine ⟨List.countP_eq_length_filter.symm, List.countP_eq_length_filter.symm, rfl, rfl, g.mem_roleSizes,
    (hperm.map _).nodup_iff.mpr hnames, ?_, ?_, ⟨g.hotspots, g.mem_hotspots, ?_, ?_⟩⟩
  · exact ranked_mergeSort RoleSize.rank hnames
  · exact ((hperm.map _).sum_eq).trans hsum
  · have hspots : ((g.taskNodes.map g.hotspot).map (·.id)).Nodup := by
      rw [List.map_map]
      exact hnodup.sublist (List.filter_sublist.map Node.id)
    exact ranked_mergeSort Hotspot.rank (hspots.sublist (List.filter_sublist.map Hotspot.id))
  · by_cases htop : top < 1
    · rw [if_pos htop]
      exact if_neg (by omega)
    · rw [if_neg htop]
      exact if_pos (by omega)

/-- The summary of a graph made by operations tells the truth about it, and it is the summary of every
other such graph with the same nodes and edges, whatever the order of the operations. -/
theorem summary_exact (ops ops' : List Operation) (top : ℤ) :
    (Store.build ops).SummarizedBy top ((Store.build ops).summary top) ∧
      ((∀ n, n ∈ (Store.build ops).nodes ↔ n ∈ (Store.build ops').nodes) →
        (Store.build ops).edges.Perm (Store.build ops').edges →
        (Store.build ops').summary top = (Store.build ops).summary top) := by
  have hids := (sound_build ops).nodup
  have hids' := (sound_build ops').nodup
  simp only [← toStore_build]
  refine ⟨summarizedBy_summary hids top, fun hmem hedges => ?_⟩
  have hnodes : (build ops).nodes.Perm (build ops').nodes :=
    (List.perm_ext_iff_of_nodup hids.of_map hids'.of_map).mpr hmem
  exact (summarizedBy_summary hids' top).unique ((summarizedBy_summary hids top).congr hnodes hedges)

/-- Adding a playbook, three task files of two roles and four calls, some of them twice. -/
def callsForward : List Operation :=
  [.addNode (.playbook "p.yml"), .addNode (.task "r" "main.yml"), .addNode (.task "s" "main.yml"),
    .addEdge (some (.playbook "p.yml")) (some (.task "r" "main.yml")), .addNode (.task "r" "a.yml"),
    .addEdge (some (.task "r" "main.yml")) (some (.task "r" "a.yml")),
    .addEdge (some (.task "r" "main.yml")) (some (.task "r" "a.yml")),
    .addEdge (some (.playbook "p.yml")) (some (.task "s" "main.yml"))]

/-- Adding the same in another order, with an edge that is refused. -/
def callsBackward : List Operation :=
  [.addNode (.task "r" "a.yml"), .addNode (.task "r" "main.yml"),
    .addEdge (some (.task "r" "main.yml")) (some (.task "s" "main.yml")),
    .addEdge (some (.task "r" "main.yml")) (some (.task "r" "a.yml")), .addNode (.task "s" "main.yml"),
    .addNode (.playbook "p.yml"), .addEdge (some (.playbook "p.yml")) (some (.task "s" "main.yml")),
    .addEdge (some (.task "r" "main.yml")) (some (.task "r" "a.yml")), .addNode (.task "r" "./a.yml"),
    .addEdge (some (.playbook "p.yml")) (some (.task "r" "main.yml"))]

/-- Two orders of the same calls lead to one summary, of three task files and four edges. -/
theorem summary_exact_reordered :
    ((∀ n, n ∈ (Store.build callsForward).nodes ↔ n ∈ (Store.build callsBackward).nodes) ∧
      (Store.build callsForward).edges.Perm (Store.build callsBackward).edges) ∧
      (Store.build callsForward).nodes ≠ (Store.build callsBackward).nodes ∧
      (Store.build callsBackward).summary 1 = (Store.build callsForward).summary 1 ∧
      (Store.build callsForward).SummarizedBy 1 ((Store.build callsForward).summary 1) ∧
      ((Store.build callsForward).summary 1).taskFiles = 3 ∧ ((Store.build callsForward).summary 1).edges = 4 := by
  obtain ⟨hnodes, hedges, hne⟩ : (Store.build callsForward).nodes.Perm (Store.build callsBackward).nodes ∧
      (Store.build callsForward).edges.Perm (Store.build callsBackward).edges ∧
      (Store.build callsForward).nodes ≠ (Store.build callsBackward).nodes := by
    decide +kernel
  have hmem : ∀ n, n ∈ (Store.build callsForward).nodes ↔ n ∈ (Store.build callsBackward).nodes :=
    fun n => hnodes.mem_iff
  obtain ⟨htrue, hsame⟩ := summary_exact callsForward callsBackward 1
  exact ⟨⟨hmem, hedges⟩, hne, hsame hmem hedges, htrue, by decide +kernel⟩

end Graph

end RoleGraph
