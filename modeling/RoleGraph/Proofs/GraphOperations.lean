import Mathlib.Algebra.BigOperators.Group.Finset.Basic
import Mathlib.Algebra.GroupWithZero.Nat
import RoleGraph.Proofs.GraphGrowth

/-!
# Graphs made by operations

A graph is made by adding nodes and edges one after the other, in any order and with any arguments.
What it holds is read off the operations alone: under an identifier the first node that was added,
and one edge for each operation that joined two identifiers known by then. Refused edges and
repeated identifiers leave no trace.

The operations run on the four tables alone. That the index and the counter agree with the lists is what
every operation keeps, and the other facts are proved for tables that agree: identifiers are stored once,
an edge joins the stored nodes, and the counter of an identifier is the number of its edges, counted at
their ends or among the successors of all nodes.
-/

namespace RoleGraph

namespace Graph

/-- Something to do to a graph: add a node, or an edge between two nodes that may be missing. -/
inductive Operation where
  | addNode (n : Node)
  | addEdge (source target : Option Node)

/-- The nodes that some operations add, with repetitions. -/
def added (ops : List Operation) : List Node :=
  ops.filterMap fun
    | .addNode n => some n
    | .addEdge _ _ => none

/-- The first node that some operations add under an identifier. -/
def firstAdded (ops : List Operation) (id : Text) : Option Node := (added ops).find? (·.id == id)

/-- The calls that further operations record once some identifiers are known: those between two
known ones. -/
def recorded (known : List Text) : List Operation → List (Text × Text)
  | [] => []
  | .addNode n :: rest => recorded (n.id :: known) rest
  | .addEdge (some s) (some t) :: rest =>
    if s.id ∈ known ∧ t.id ∈ known then (s.id, t.id) :: recorded known rest else recorded known rest
  | .addEdge _ _ :: rest => recorded known rest

namespace Store

/-- How an operation ends. -/
def apply (s : Store) : Operation → Except EdgeError Store
  | .addNode n => .ok (s.addNode n)
  | .addEdge source target => s.addEdge source target

/-- The tables after an operation; one that is refused leaves them as they were. -/
def after (s : Store) (o : Operation) : Store :=
  match s.apply o with
  | .ok s' => s'
  | .error _ => s

/-- The tables that some operations make, from nothing. -/
def build (ops : List Operation) : Store := ops.foldl after {}

/-- An endpoint of an edge is missing, or its identifier is unknown. -/
def Lacks (s : Store) (endpoint : Option Node) : Prop := ∀ n, endpoint = some n → n.id ∉ s.ids

/-- Every identifier is stored once, and every edge joins stored nodes. -/
structure Sound (s : Store) : Prop where
  nodup : s.ids.Nodup
  source_stored : ∀ e ∈ s.edges, s.find? e.source.id = some e.source
  target_stored : ∀ e ∈ s.edges, s.find? e.target.id = some e.target

/-- The tables are what some operations made of nothing. -/
structure Represents (ops : List Operation) (s : Store) : Prop extends s.Sound where
  /-- The index holds the positions of the nodes, and nothing else. -/
  index_iff : ∀ id i, s.index id = some i ↔ ∃ n, s.nodes[i]? = some n ∧ n.id = id
  /-- An identifier stands for the first node that was added under it, and for nothing else. -/
  find_eq : ∀ id, s.find? id = firstAdded ops id
  calls_eq : s.calls = recorded [] ops
  /-- The counter of an identifier is the number of the edges into it. -/
  inDegree_edges : ∀ id, s.inDegree id = (s.edges.filter (·.target.id == id)).length
  /-- It is the number of the recorded calls to it. -/
  inDegree_recorded : ∀ id, s.inDegree id = (recorded [] ops).countP (·.2 == id)
  /-- It is also the number of times it is among the successors of all nodes together. -/
  inDegree_successors : ∀ id, s.inDegree id = (s.nodes.map fun n => (s.successors n.id).count id).sum

/-- What an operation does to the tables. -/
structure Advances (s : Store) (o : Operation) (s' : Store) : Prop where
  nodes_prefix : s.nodes <+: s'.nodes
  edges_prefix : s.edges <+: s'.edges
  /-- A new node is put at the end and its position into the index. -/
  addNode_new : ∀ n, o = .addNode n → n.id ∉ s.ids →
    s' = { s with nodes := s.nodes ++ [n], index := put s.index n.id (some s.nodes.length) }
  addNode_known : ∀ n, o = .addNode n → n.id ∈ s.ids → s' = s
  /-- An edge is refused exactly when an endpoint is missing or unknown. -/
  refused_iff : ∀ n m, o = .addEdge n m → ((∃ e, s.apply o = .error e) ↔ s.Lacks n ∨ s.Lacks m)
  refused : ∀ e, s.apply o = .error e → s' = s ∧ Text.ofString "node not found" <:+ e.message
  /-- An edge that is accepted joins what is stored under the identifiers of the given nodes, and the
  counter of the second one goes up by one. -/
  accepted : ∀ n m, o = .addEdge (some n) (some m) → n.id ∈ s.ids → m.id ∈ s.ids →
    s' = { s with
      edges := s.edges ++ [⟨s.stored n, s.stored m⟩]
      incoming := put s.incoming m.id (s.incoming m.id + 1) }

/-- Every operation keeps the tables consistent. -/
theorem Consistent.after {s : Store} (h : s.Consistent) (o : Operation) : (s.after o).Consistent := by
  unfold Store.after
  cases o with
  | addNode n => exact h.addNode n
  | addEdge source target =>
    split
    · rename_i s' hs'
      exact h.addEdge hs'
    · exact h

end Store

/-- The graph after an operation; one that is refused leaves the graph as it was. -/
def after (g : Graph) (o : Operation) : Graph := ⟨g.toStore.after o, g.consistent.after o⟩

/-- The graph that some operations make, from nothing. -/
def build (ops : List Operation) : Graph := ops.foldl after {}

/-- A graph made by operations has the tables that they make. -/
theorem toStore_build (ops : List Operation) : (build ops).toStore = Store.build ops :=
  (List.foldl_hom toStore fun _ _ => rfl).symm

/-- After a node was added, its identifier is found unless another node has it already. -/
theorem find?_addNode (g : Graph) (n : Node) (id : Text) :
    (g.addNode n).find? id = (g.find? id).or ([n].find? (·.id == id)) := by
  by_cases h : n.id ∈ g.ids
  · rw [addNode_of_mem h]
    by_cases hid : n.id = id
    · subst hid
      rw [find?_eq_stored h, Option.some_or]
    · have hnone : [n].find? (·.id == id) = none := by simp [hid]
      rw [hnone, Option.or_none]
  · rw [addNode_of_notMem h, find?_eq, find?_eq]
    exact List.find?_append

/-- An edge is refused when an endpoint is missing or unknown, and joins stored nodes otherwise. -/
theorem addEdge_cases (g : Graph) (source target : Option Node) :
    ((g.Lacks source ∨ g.Lacks target) ∧ ∃ e, g.toStore.addEdge source target = .error e) ∨
      ∃ n m, source = some n ∧ target = some m ∧ n.id ∈ g.ids ∧ m.id ∈ g.ids ∧
        g.toStore.addEdge source target = .ok (g.join n m).toStore := by
  cases source with
  | none => exact Or.inl ⟨Or.inl nofun, _, rfl⟩
  | some n =>
    cases target with
    | none => exact Or.inl ⟨Or.inr nofun, _, rfl⟩
    | some m =>
      by_cases hn : n.id ∈ g.ids
      · by_cases hm : m.id ∈ g.ids
        · exact Or.inr ⟨n, m, rfl, rfl, hn, hm, addEdge_store_of_mem hn hm⟩
        · refine Or.inl ⟨Or.inr ?_, .unknownTarget m.id, ?_⟩
          · rintro n' ⟨⟩
            exact hm
          · simp only [Store.addEdge, find?_eq_stored hn, find?_eq_none_iff.mpr hm]
      · refine Or.inl ⟨Or.inl ?_, .unknownSource n.id, ?_⟩
        · rintro n' ⟨⟩
          exact hn
        · simp only [Store.addEdge, find?_eq_none_iff.mpr hn]

/-- An endpoint that is given and known is not lacking. -/
theorem not_lacks_of_mem {s : Store} {n : Node} (h : n.id ∈ s.ids) : ¬ s.Lacks (some n) :=
  fun hlacks => hlacks n rfl h

/-- Whatever an operation is, it adds a node, is refused, or joins two known nodes. -/
theorem after_cases (g : Graph) (o : Operation) :
    (∃ n, o = .addNode n ∧ g.after o = g.addNode n) ∨
      (∃ n m e, o = .addEdge n m ∧ (g.Lacks n ∨ g.Lacks m) ∧ g.toStore.apply o = .error e ∧ g.after o = g) ∨
      ∃ n m, o = .addEdge (some n) (some m) ∧ n.id ∈ g.ids ∧ m.id ∈ g.ids ∧
        g.toStore.apply o = .ok (g.join n m).toStore ∧ g.after o = g.join n m := by
  cases o with
  | addNode n => exact Or.inl ⟨n, rfl, rfl⟩
  | addEdge source target =>
    right
    rcases g.addEdge_cases source target with ⟨hlacks, e, he⟩ | ⟨n, m, rfl, rfl, hn, hm, hok⟩
    · refine Or.inl ⟨source, target, e, rfl, hlacks, he, toStore_injective ?_⟩
      simp only [after, Store.after, Store.apply, he]
    · refine Or.inr ⟨n, m, rfl, hn, hm, hok, toStore_injective ?_⟩
      simp only [after, Store.after, Store.apply, hok]

/-- Adding a node keeps a graph sound. -/
theorem Store.Sound.addNode {g : Graph} (h : g.Sound) (n : Node) : (g.addNode n).Sound := by
  refine ⟨nodup_ids_addNode h.nodup n, fun e he => ?_, fun e he => ?_⟩
  · rw [edges_addNode] at he
    rw [find?_addNode, h.source_stored e he, Option.some_or]
  · rw [edges_addNode] at he
    rw [find?_addNode, h.target_stored e he, Option.some_or]

/-- An edge between known nodes keeps a graph sound. -/
theorem Store.Sound.join {g : Graph} (h : g.Sound) {source target : Node} (hs : source.id ∈ g.ids)
    (ht : target.id ∈ g.ids) : (g.join source target).Sound := by
  have hstored : ∀ n : Node, n.id ∈ g.ids → (g.join source target).find? (g.stored n).id = some (g.stored n) := by
    intro n hn
    rw [stored_id, find?_join]
    exact find?_eq_stored hn
  refine ⟨h.nodup, fun e he => ?_, fun e he => ?_⟩
  · rcases List.mem_append.mp he with he | he
    · rw [find?_join]
      exact h.source_stored e he
    · obtain rfl := List.mem_singleton.mp he
      exact hstored source hs
  · rcases List.mem_append.mp he with he | he
    · rw [find?_join]
      exact h.target_stored e he
    · obtain rfl := List.mem_singleton.mp he
      exact hstored target ht

/-- The empty graph is sound. -/
theorem sound_empty : ({} : Graph).Sound := ⟨List.nodup_nil, nofun, nofun⟩

/-- Every operation keeps a graph sound. -/
theorem Store.Sound.after {g : Graph} (h : g.Sound) (o : Operation) : (g.after o).Sound := by
  rcases g.after_cases o with ⟨n, -, heq⟩ | ⟨n, m, e, -, -, -, heq⟩ | ⟨n, m, -, hn, hm, -, heq⟩
  · rw [heq]
    exact h.addNode n
  · rw [heq]
    exact h
  · rw [heq]
    exact h.join hn hm

/-- One more operation comes after the others. -/
theorem build_append (ops : List Operation) (o : Operation) : build (ops ++ [o]) = (build ops).after o :=
  List.foldl_concat ..

/-- Every graph that operations make is sound. -/
theorem sound_build (ops : List Operation) : (build ops).Sound := by
  induction ops using List.reverseRecOn with
  | nil => exact sound_empty
  | append_singleton ops o ih =>
    rw [build_append]
    exact ih.after o

/-- What some operations add comes before what is added after them. -/
theorem firstAdded_append (ops more : List Operation) (id : Text) :
    firstAdded (ops ++ more) id = (firstAdded ops id).or (firstAdded more id) := by
  unfold firstAdded added
  rw [List.filterMap_append, List.find?_append]

/-- What is found under an identifier is the first node that was added under it. -/
theorem find?_build (ops : List Operation) (id : Text) : (build ops).find? id = firstAdded ops id := by
  induction ops using List.reverseRecOn with
  | nil => rfl
  | append_singleton ops o ih =>
    rw [build_append, firstAdded_append, ← ih]
    rcases (build ops).after_cases o with
      ⟨n, rfl, heq⟩ | ⟨n, m, e, rfl, -, -, heq⟩ | ⟨n, m, rfl, -, -, -, heq⟩
    · rw [heq, find?_addNode]
      rfl
    · rw [heq]
      exact (Option.or_none).symm
    · rw [heq, find?_join]
      exact (Option.or_none).symm

/-- The nodes of a graph are among those that were added. -/
theorem mem_added_of_mem_nodes (ops : List Operation) : ∀ n ∈ (build ops).nodes, n ∈ added ops := by
  induction ops using List.reverseRecOn with
  | nil => exact nofun
  | append_singleton ops o ih =>
    intro n hn
    rw [added, List.filterMap_append, List.mem_append]
    rw [build_append] at hn
    rcases (build ops).after_cases o with ⟨m, rfl, heq⟩ | ⟨s, t, e, rfl, -, -, heq⟩ | ⟨s, t, rfl, -, -, -, heq⟩
    · rw [heq] at hn
      by_cases hm : m.id ∈ (build ops).ids
      · rw [addNode_of_mem hm] at hn
        exact Or.inl (ih n hn)
      · rw [addNode_of_notMem hm] at hn
        exact (List.mem_append.mp hn).imp (ih n) id
    · rw [heq] at hn
      exact Or.inl (ih n hn)
    · rw [heq] at hn
      exact Or.inl (ih n hn)

/-- Operations add the calls between identifiers that are known by then. -/
theorem calls_foldl_after (ops : List Operation) {g : Graph} {known : List Text}
    (hknown : ∀ id, id ∈ known ↔ id ∈ g.ids) :
    (ops.foldl after g).calls = g.calls ++ recorded known ops := by
  induction ops generalizing g known with
  | nil => simp [recorded]
  | cons o ops ih =>
    rw [List.foldl_cons]
    rcases g.after_cases o with ⟨n, rfl, heq⟩ | ⟨s, t, e, rfl, hlacks, -, heq⟩ | ⟨s, t, rfl, hs, ht, -, heq⟩
    · have hknown' : ∀ id, id ∈ n.id :: known ↔ id ∈ (g.addNode n).ids := by
        intro id
        rw [List.mem_cons, hknown, mem_ids_addNode, or_comm]
      rw [heq, ih hknown', calls_addNode, recorded]
    · rw [heq, ih hknown]
      rcases s with _ | s
      · rfl
      · rcases t with _ | t
        · rfl
        · have hunknown : ¬ (s.id ∈ known ∧ t.id ∈ known) := by
            rintro ⟨hs, ht⟩
            rcases hlacks with hlacks | hlacks
            · exact not_lacks_of_mem ((hknown _).mp hs) hlacks
            · exact not_lacks_of_mem ((hknown _).mp ht) hlacks
          rw [recorded, if_neg hunknown]
    · rw [heq, ih (g := g.join s t) hknown, calls_join, recorded,
        if_pos ⟨(hknown _).mpr hs, (hknown _).mpr ht⟩, List.append_assoc, List.singleton_append]

/-- The counter of an identifier is the number of the calls to it. -/
theorem inDegree_eq_calls (g : Graph) (id : Text) : g.inDegree id = g.calls.countP (·.2 == id) := by
  rw [inDegree_eq, Store.calls, List.countP_map]
  rfl

/-- Items with their keys in a list without repetitions are counted key by key. -/
theorem sum_count_keys {keys items : List Text} (hkeys : keys.Nodup) (hitems : items ⊆ keys) :
    (keys.map fun key => items.count key).sum = items.length := by
  have hmem : ∀ a ∈ (items : Multiset Text), a ∈ keys.toFinset := by
    intro a ha
    exact List.mem_toFinset.mpr (hitems ha)
  calc
    _ = ∑ key ∈ keys.toFinset, items.count key := (List.sum_toFinset _ hkeys).symm
    _ = ∑ key ∈ keys.toFinset, Multiset.count key items := by
      simp only [Multiset.coe_count, List.count, beq_eq_decide]
    _ = items.length := Multiset.sum_count_eq_card hmem

/-- Every edge into an identifier is counted once among the successors of all nodes. -/
theorem Store.Sound.inDegree_successors {g : Graph} (h : g.Sound) (id : Text) :
    g.inDegree id = (g.nodes.map fun n => (g.successors n.id).count id).sum := by
  have hcount : ∀ key, (g.successors key).count id =
      ((g.edges.filter (·.target.id == id)).map (·.source.id)).count key := by
    intro key
    simp only [Store.successors, List.count, List.countP_map, List.countP_filter]
    congr 1
    funext e
    exact Bool.and_comm _ _
  have hsources : (g.edges.filter (·.target.id == id)).map (·.source.id) ⊆ g.ids := by
    intro key hkey
    obtain ⟨e, he, rfl⟩ := List.mem_map.mp hkey
    have hstored := h.source_stored e (List.mem_filter.mp he).1
    exact List.mem_map.mpr ⟨e.source, mem_of_find? hstored, rfl⟩
  have hsum := sum_count_keys h.nodup hsources
  rw [List.length_map, ← List.countP_eq_length_filter, Store.ids, List.map_map] at hsum
  rw [inDegree_eq, ← hsum]
  simp only [hcount]
  rfl

/-- Every refused edge says that a node was not found. -/
theorem EdgeError.message_suffix (e : EdgeError) : Text.ofString "node not found" <:+ e.message := by
  have hmark : Text.ofString ": node not found" = Text.ofString ": " ++ Text.ofString "node not found" := by
    decide
  cases e with
  | noEndpoint s t => exact (hmark ▸ List.suffix_append _ _).trans (List.suffix_append _ _)
  | unknownSource id => exact (hmark ▸ List.suffix_append _ _).trans (List.suffix_append _ _)
  | unknownTarget id => exact (hmark ▸ List.suffix_append _ _).trans (List.suffix_append _ _)

/-- The index of a graph with different identifiers holds the positions of its nodes. -/
theorem index_eq_some_iff {g : Graph} (h : g.ids.Nodup) (id : Text) (i : ℕ) :
    g.index id = some i ↔ ∃ n, g.nodes[i]? = some n ∧ n.id = id := by
  rw [g.consistent.index_eq, List.findIdx?_eq_some_iff_getElem]
  constructor
  · rintro ⟨hi, hid, -⟩
    exact ⟨_, List.getElem?_eq_getElem hi, by simpa using hid⟩
  · rintro ⟨n, hn, rfl⟩
    obtain ⟨hi, rfl⟩ := List.getElem?_eq_some_iff.mp hn
    refine ⟨hi, by simp, fun j hj hid => ?_⟩
    have hlt : j < g.nodes.length := hj.trans hi
    have hids : g.ids[j]? = g.ids[i]? := by simpa [Store.ids, hi, hlt] using hid
    exact absurd ((List.getElem?_inj (by simpa [Store.ids] using hlt) h).mp hids) (Nat.ne_of_lt hj)

/-- Every graph is moved on by every operation. -/
theorem advances_after (g : Graph) (o : Operation) : g.Advances o (g.after o).toStore := by
  rcases g.after_cases o with
    ⟨n, rfl, heq⟩ | ⟨n, m, e, rfl, hlacks, happly, heq⟩ | ⟨n, m, rfl, hn, hm, happly, heq⟩
  · rw [heq]
    have hnew (h : n.id ∉ g.ids) := Store.addNode_new (index_eq_none_iff.mpr h)
    have hknown (h : n.id ∈ g.ids) := congrArg toStore (addNode_of_mem h)
    refine ⟨?_, by rw [edges_addNode], ?_, ?_, nofun, nofun, nofun⟩
    · by_cases h : n.id ∈ g.ids
      · rw [hknown h]
      · rw [addNode_of_notMem h]
        exact List.prefix_append _ _
    · rintro n' ⟨⟩ h
      exact hnew h
    · rintro n' ⟨⟩ h
      exact hknown h
  · rw [heq]
    refine ⟨List.prefix_rfl, List.prefix_rfl, nofun, nofun, ?_, ?_, ?_⟩
    · rintro n' m' ⟨⟩
      exact ⟨fun _ => hlacks, fun _ => ⟨e, happly⟩⟩
    · exact fun e' _ => ⟨rfl, e'.message_suffix⟩
    · rintro n' m' ⟨⟩ hn hm
      rcases hlacks with hlacks | hlacks
      · exact absurd hlacks (not_lacks_of_mem hn)
      · exact absurd hlacks (not_lacks_of_mem hm)
  · rw [heq]
    refine ⟨List.prefix_rfl, List.prefix_append _ _, nofun, nofun, ?_, ?_, ?_⟩
    · rintro n' m' ⟨⟩
      constructor
      · rintro ⟨e, he⟩
        rw [happly] at he
        contradiction
      · rintro (hlacks | hlacks)
        · exact absurd hlacks (not_lacks_of_mem hn)
        · exact absurd hlacks (not_lacks_of_mem hm)
    · intro e he
      rw [happly] at he
      contradiction
    · rintro n' m' ⟨⟩ - -
      exact toStore_join g n m

/-- The tables that operations make, from nothing, are what they say, and every further operation moves
them on. -/
theorem operations_represented (ops : List Operation) (o : Operation) :
    Store.Represents ops (Store.build ops) ∧ (Store.build ops).Advances o (Store.build (ops ++ [o])) := by
  have hsound := sound_build ops
  have hcalls : (build ops).calls = recorded [] ops :=
    calls_foldl_after ops fun _ : Text => Iff.rfl
  rw [← toStore_build, ← toStore_build]
  refine ⟨⟨hsound, index_eq_some_iff hsound.nodup, find?_build ops, hcalls, fun id => ?_, fun id => ?_,
    hsound.inDegree_successors⟩, ?_⟩
  · rw [inDegree_eq]
    exact List.countP_eq_length_filter
  · rw [inDegree_eq_calls, hcalls]
  · rw [build_append]
    exact advances_after (build ops) o

end Graph

end RoleGraph
