import Mathlib.Data.List.Nodup
import Mathlib.Data.List.Perm.Basic
import RoleGraph.Graph.Basic

/-!
# How the call graph grows

The graph is looked at through its identifiers: those of the nodes and the pairs of them that the
edges join. The index and the counter follow from the two lists, so lookups are searches of the nodes
and in-degrees are numbers of edges. Linking adds two nodes, unless they are known, and one edge between them; it never
fails. A graph that only grows by roots and links has no other nodes than its roots and the ends of
its calls, and each of them once.
-/

namespace RoleGraph

namespace Graph

/-- The identifiers of the nodes. -/
def Store.ids (s : Store) : List Text := s.nodes.map (·.id)

/-- The calls: the identifiers that the edges join, with repetitions. -/
def Store.calls (s : Store) : List (Text × Text) := s.edges.map fun e => (e.source.id, e.target.id)

/-- The graph with given nodes and edges. -/
def ofLists (nodes : List Node) (edges : List Edge) : Graph where
  nodes := nodes
  index id := nodes.findIdx? (·.id == id)
  edges := edges
  incoming id := edges.countP (·.target.id == id)
  consistent := ⟨fun _ => rfl, fun _ => rfl⟩

@[simp] theorem nodes_ofLists (nodes : List Node) (edges : List Edge) : (ofLists nodes edges).nodes = nodes := rfl

@[simp] theorem edges_ofLists (nodes : List Node) (edges : List Edge) : (ofLists nodes edges).edges = edges := rfl

/-- Add an edge between what is stored under the identifiers of two nodes. -/
def join (g : Graph) (source target : Node) : Graph :=
  .ofLists g.nodes (g.edges ++ [⟨g.stored source, g.stored target⟩])

/-- Add a call with the nodes it joins, unless they are known. -/
def link (g : Graph) (source target : Node) : Graph :=
  ((g.addNode target).addNode source).join source target

/-- The identifiers that some calls join. -/
def endpoints (calls : List (Text × Text)) : List Text := calls.flatMap fun c => [c.1, c.2]

/-- The nodes are some roots and the ends of the calls, each of them once. -/
structure Spans (g : Graph) (roots : List Text) : Prop where
  nodup : g.ids.Nodup
  mem_ids : ∀ id, id ∈ g.ids ↔ id ∈ roots ∨ id ∈ endpoints g.calls

/-- Graphs with the same tables are the same. -/
theorem toStore_injective {g g' : Graph} (h : g.toStore = g'.toStore) : g = g' := by
  obtain ⟨s, hs⟩ := g
  obtain rfl : s = g'.toStore := h
  rfl

/-- The counter holds the number of edges. -/
theorem inDegree_eq (g : Graph) (id : Text) : g.inDegree id = g.edges.countP (·.target.id == id) :=
  g.consistent.incoming_eq id

/-- An edge that the tables accept is accepted. -/
theorem addEdge_eq_ok {g g' : Graph} {source target : Option Node}
    (h : g.toStore.addEdge source target = .ok g'.toStore) : g.addEdge source target = .ok g' := by
  unfold addEdge
  split
  · rename_i s hs
    obtain rfl : g'.toStore = s := Except.ok.inj (h.symm.trans hs)
    rfl
  · rename_i e he
    cases h.symm.trans he

/-- The index finds what a search of the nodes would find. -/
theorem find?_eq (g : Graph) (id : Text) : g.find? id = g.nodes.find? (·.id == id) :=
  g.consistent.find?_eq id

/-- What is found is told by the nodes. -/
theorem find?_congr (g g' : Graph) (h : g.nodes = g'.nodes) (id : Text) : g.find? id = g'.find? id := by
  rw [find?_eq, find?_eq, h]

/-- An identifier has no position when no node has it. -/
theorem index_eq_none_iff {g : Graph} {id : Text} : g.index id = none ↔ id ∉ g.ids := by
  rw [g.consistent.index_eq, List.findIdx?_eq_none_iff, Store.ids, List.mem_map]
  constructor
  · rintro h ⟨n, hn, rfl⟩
    simpa using h n hn
  · intro h n hn
    simpa using fun hid => h ⟨n, hn, hid⟩

/-- An identifier is unknown when no node has it. -/
theorem find?_eq_none_iff {g : Graph} {id : Text} : g.find? id = none ↔ id ∉ g.ids := by
  simp only [find?_eq, Store.ids, List.find?_eq_none, List.mem_map, beq_iff_eq]
  constructor
  · rintro h ⟨n, hn, rfl⟩
    exact h n hn rfl
  · rintro h n hn rfl
    exact h ⟨n, hn, rfl⟩

/-- What is found under an identifier has it. -/
theorem id_of_find? {g : Graph} {id : Text} {n : Node} (h : g.find? id = some n) : n.id = id :=
  g.consistent.id_of_find? h

/-- What is found under an identifier is a node of the graph. -/
theorem mem_of_find? {g : Graph} {id : Text} {n : Node} (h : g.find? id = some n) : n ∈ g.nodes :=
  List.mem_of_find?_eq_some (g.find?_eq id ▸ h)

/-- The stored node of a node has the same identifier. -/
@[simp] theorem stored_id (g : Graph) (n : Node) : (g.stored n).id = n.id := by
  unfold Store.stored
  cases h : g.find? n.id with
  | none => rfl
  | some known => exact id_of_find? h

/-- Nothing is changed for an identifier that has a position. -/
theorem Store.addNode_known {s : Store} {n : Node} (h : s.index n.id ≠ none) : s.addNode n = s := by
  obtain ⟨i, hi⟩ := Option.ne_none_iff_exists'.mp h
  rw [Store.addNode, hi]

/-- A new identifier gets the position after all others. -/
theorem Store.addNode_new {s : Store} {n : Node} (h : s.index n.id = none) :
    s.addNode n = { s with nodes := s.nodes ++ [n], index := put s.index n.id (some s.nodes.length) } := by
  rw [Store.addNode, h]

/-- A known identifier is not added again. -/
theorem addNode_of_mem {g : Graph} {n : Node} (h : n.id ∈ g.ids) : g.addNode n = g := by
  have hkept := Store.addNode_known fun hnone => index_eq_none_iff.mp hnone h
  exact Graph.ext (congrArg Store.nodes hkept) (congrArg Store.edges hkept)

/-- A node with a new identifier is added at the end. -/
theorem addNode_of_notMem {g : Graph} {n : Node} (h : n.id ∉ g.ids) :
    g.addNode n = .ofLists (g.nodes ++ [n]) g.edges := by
  have hadded := Store.addNode_new (index_eq_none_iff.mpr h)
  refine Graph.ext (?_ : (g.toStore.addNode n).nodes = _) (?_ : (g.toStore.addNode n).edges = _)
  · rw [hadded]
    rfl
  · rw [hadded]
    rfl

/-- Adding a node makes its identifier known and forgets none. -/
@[simp] theorem mem_ids_addNode {g : Graph} {n : Node} {id : Text} :
    id ∈ (g.addNode n).ids ↔ id ∈ g.ids ∨ id = n.id := by
  by_cases h : n.id ∈ g.ids
  · rw [addNode_of_mem h]
    constructor
    · exact Or.inl
    · rintro (hid | rfl)
      · exact hid
      · exact h
  · rw [addNode_of_notMem h]
    simp [Store.ids]

/-- Adding a node adds no edge. -/
@[simp] theorem edges_addNode (g : Graph) (n : Node) : (g.addNode n).edges = g.edges := by
  by_cases h : n.id ∈ g.ids
  · rw [addNode_of_mem h]
  · rw [addNode_of_notMem h]
    rfl

/-- What is found under the identifier of a node that is known is its stored node. -/
theorem find?_eq_stored {g : Graph} {n : Node} (h : n.id ∈ g.ids) : g.find? n.id = some (g.stored n) := by
  cases hf : g.find? n.id with
  | none => exact absurd h (find?_eq_none_iff.mp hf)
  | some known => simp [Store.stored, hf]

/-- A node with a new identifier is stored as it is. -/
theorem stored_of_notMem {g : Graph} {n : Node} (h : n.id ∉ g.ids) : g.stored n = n := by
  rw [Store.stored, find?_eq_none_iff.mpr h, Option.getD_none]

/-- What is stored depends on the identifier alone, once it is known. -/
theorem stored_congr {g : Graph} {n m : Node} (hid : n.id = m.id) (h : n.id ∈ g.ids) :
    g.stored n = g.stored m := by
  have hn := find?_eq_stored h
  rw [hid] at h hn
  exact Option.some.inj (hn.symm.trans (find?_eq_stored h))

/-- What is stored of two nodes is joined by an edge, which is counted for the second of them. -/
theorem toStore_join (g : Graph) (source target : Node) :
    (g.join source target).toStore = g.toStore.record ⟨g.stored source, g.stored target⟩ target.id := by
  have hcounted := g.consistent.record ⟨g.stored source, g.stored target⟩
  rw [stored_id] at hcounted
  have heq : g.join source target = ⟨_, hcounted⟩ := Graph.ext rfl rfl
  rw [heq]

/-- An edge changes nothing about what is found. -/
@[simp] theorem find?_join (g : Graph) (source target : Node) (id : Text) :
    (g.join source target).find? id = g.find? id :=
  find?_congr (g.join source target) g rfl id

/-- An edge changes nothing about what is stored. -/
@[simp] theorem stored_join (g : Graph) (source target n : Node) :
    (g.join source target).stored n = g.stored n :=
  congrArg (·.getD n) (g.find?_join source target n.id)

/-- An edge is one call. -/
@[simp] theorem calls_join (g : Graph) (source target : Node) :
    (g.join source target).calls = g.calls ++ [(source.id, target.id)] := by
  simp [join, Store.calls]

/-- An edge between known identifiers joins their stored nodes. -/
theorem addEdge_store_of_mem {g : Graph} {source target : Node} (hs : source.id ∈ g.ids)
    (ht : target.id ∈ g.ids) :
    g.toStore.addEdge (some source) (some target) = .ok (g.join source target).toStore := by
  rw [toStore_join]
  simp only [Store.addEdge, find?_eq_stored hs, find?_eq_stored ht]

/-- An edge between known identifiers is accepted. -/
theorem addEdge_of_mem {g : Graph} {source target : Node} (hs : source.id ∈ g.ids)
    (ht : target.id ∈ g.ids) : g.addEdge (some source) (some target) = .ok (g.join source target) :=
  addEdge_eq_ok (addEdge_store_of_mem hs ht)

/-- After both nodes were added, the edge is accepted. -/
theorem addEdge_link (g : Graph) (source target : Node) :
    ((g.addNode target).addNode source).addEdge (some source) (some target) =
      .ok (g.link source target) :=
  addEdge_of_mem (by simp) (by simp)

/-- Adding what a smaller graph stores for a node is adding the node. -/
theorem addNode_stored {g g' : Graph} (h : g'.ids ⊆ g.ids) (n : Node) :
    g.addNode (g'.stored n) = g.addNode n := by
  by_cases hn : n.id ∈ g'.ids
  · rw [addNode_of_mem (h hn), addNode_of_mem]
    rw [stored_id]
    exact h hn
  · rw [stored_of_notMem hn]

/-- Linking what smaller graphs store for two nodes is linking the nodes. -/
theorem link_stored {g g₁ g₂ : Graph} (h₁ : g₁.ids ⊆ g.ids) (h₂ : g₂.ids ⊆ g.ids) (source target : Node) :
    g.link (g₁.stored source) (g₂.stored target) = g.link source target := by
  have hknown : (g.addNode (g₂.stored target)).addNode (g₁.stored source) =
      (g.addNode target).addNode source := by
    rw [addNode_stored h₂, addNode_stored]
    intro id hid
    exact mem_ids_addNode.mpr (Or.inl (h₁ hid))
  have hsource : source.id ∈ ((g.addNode target).addNode source).ids := by simp
  have htarget : target.id ∈ ((g.addNode target).addNode source).ids := by simp
  simp only [link, join]
  rw [hknown, stored_congr (stored_id g₁ source).symm hsource, stored_congr (stored_id g₂ target).symm htarget]

/-- Linking known nodes adds one edge between the stored ones and nothing else. -/
theorem link_of_mem {g : Graph} {source target : Node} (hsource : source.id ∈ g.ids)
    (htarget : target.id ∈ g.ids) :
    g.link source target = g.join source target := by
  rw [link, addNode_of_mem htarget, addNode_of_mem hsource]

/-- A stored node is stored as it is. -/
theorem stored_stored {g : Graph} {n : Node} (h : n.id ∈ g.ids) : g.stored (g.stored n) = g.stored n :=
  stored_congr (stored_id g n) (by rwa [stored_id])

/-- Linking makes both identifiers known and forgets none. -/
@[simp] theorem mem_ids_link {g : Graph} {source target : Node} {id : Text} :
    id ∈ (g.link source target).ids ↔ id ∈ g.ids ∨ id = target.id ∨ id = source.id := by
  change id ∈ ((g.addNode target).addNode source).ids ↔ _
  rw [mem_ids_addNode, mem_ids_addNode, or_assoc]

/-- Adding a node adds no call. -/
@[simp] theorem calls_addNode (g : Graph) (n : Node) : (g.addNode n).calls = g.calls := by
  simp [Store.calls]

/-- Linking adds one call. -/
@[simp] theorem calls_link (g : Graph) (source target : Node) :
    (g.link source target).calls = g.calls ++ [(source.id, target.id)] := by
  rw [link, calls_join, calls_addNode, calls_addNode]

/-- Joining lists of calls joins their identifiers. -/
@[simp] theorem endpoints_append (xs ys : List (Text × Text)) :
    endpoints (xs ++ ys) = endpoints xs ++ endpoints ys := List.flatMap_append

/-- Adding a node repeats no identifier. -/
theorem nodup_ids_addNode {g : Graph} (h : g.ids.Nodup) (n : Node) : (g.addNode n).ids.Nodup := by
  by_cases hknown : n.id ∈ g.ids
  · rwa [addNode_of_mem hknown]
  · rw [addNode_of_notMem hknown]
    change (g.nodes ++ [n]).map (·.id) |>.Nodup
    rw [List.map_append, List.map_singleton, ← List.concat_eq_append]
    exact List.Nodup.concat hknown h

/-- The empty graph spans nothing. -/
theorem spans_empty : Spans {} [] := ⟨List.nodup_nil, by simp [Store.ids, Store.calls, endpoints]⟩

/-- A new root is spanned together with the others. -/
theorem Spans.addNode {g : Graph} {roots : List Text} (h : g.Spans roots) (n : Node) :
    (g.addNode n).Spans (roots ++ [n.id]) := by
  refine ⟨nodup_ids_addNode h.nodup n, fun id => ?_⟩
  rw [mem_ids_addNode, calls_addNode, h.mem_ids, List.mem_append, List.mem_singleton]
  tauto

/-- A link is spanned by the same roots. -/
theorem Spans.link {g : Graph} {roots : List Text} (h : g.Spans roots) (source target : Node) :
    (g.link source target).Spans roots := by
  refine ⟨nodup_ids_addNode (nodup_ids_addNode h.nodup target) source, fun id => ?_⟩
  have hends : id ∈ endpoints [(source.id, target.id)] ↔ id = source.id ∨ id = target.id := by
    simp [endpoints]
  rw [mem_ids_link, calls_link, endpoints_append, List.mem_append, hends, h.mem_ids]
  tauto

end Graph

end RoleGraph
