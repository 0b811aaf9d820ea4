import RoleGraph.Graph.Node

/-!
# The call graph

Nodes and edges in the order in which they were added; nothing is ever removed. A node identifier
is stored once, and an edge joins two stored nodes. Repeated edges are kept, because each one is a
call.

A graph is kept in four tables. Beside the lists of nodes and of edges there is an index, which tells
the position of the node that an identifier stands for, and a counter of the edges that end at each
identifier. Lookups read the index and in-degrees read the counter; neither searches a list. What the
two tables must say is a property of the store, every operation keeps it, and a graph is a store that
has it.
-/

namespace RoleGraph

/-- One call: the source node runs the target node. -/
structure Edge where
  source : Node
  target : Node
  deriving DecidableEq, Repr

namespace Graph

/-- Why an edge was refused. -/
inductive EdgeError where
  /-- An endpoint is missing; the identifiers of the given ones are kept. -/
  | noEndpoint (source target : Option Text)
  /-- The graph has no node with the source's identifier. -/
  | unknownSource (id : Text)
  /-- The graph has no node with the target's identifier. -/
  | unknownTarget (id : Text)
  deriving DecidableEq, Repr

/-- The text of an identifier that may be missing. -/
def idText : Option Text → Text
  | some id => id
  | none => "<nil>"

/-- The wording of a refused edge. -/
def EdgeError.message : EdgeError → Text
  | .noEndpoint s t => "edge " ++ idText s ++ " -> " ++ idText t ++ ": node not found"
  | .unknownSource id => "edge source " ++ id ++ ": node not found"
  | .unknownTarget id => "edge destination " ++ id ++ ": node not found"

/-- A table with one more entry, in place of the one under the same identifier. -/
def put {α : Type} (table : Text → α) (id : Text) (entry : α) : Text → α :=
  fun key => if key = id then entry else table key

/-- The tables of a directed multigraph, in insertion order. -/
structure Store where
  nodes : List Node := []
  /-- The position of the node that an identifier stands for. -/
  index : Text → Option Nat := fun _ => none
  edges : List Edge := []
  /-- How many edges were counted for an identifier. -/
  incoming : Text → Nat := fun _ => 0

namespace Store

/-- The node stored under an identifier. -/
def find? (s : Store) (id : Text) : Option Node := (s.index id).bind fun i => s.nodes[i]?

/-- The node stored under a node's identifier, which is the node itself when it is new. -/
def stored (s : Store) (n : Node) : Node := (s.find? n.id).getD n

/-- Add a node unless its identifier is known. -/
def addNode (s : Store) (n : Node) : Store :=
  match s.index n.id with
  | some _ => s
  | none => { s with nodes := s.nodes ++ [n], index := put s.index n.id (some s.nodes.length) }

/-- Add an edge and count it for an identifier. -/
def record (s : Store) (e : Edge) (id : Text) : Store :=
  { s with edges := s.edges ++ [e], incoming := put s.incoming id (s.incoming id + 1) }

/-- Add an edge between the stored nodes of two identifiers. -/
def addEdge (s : Store) (source target : Option Node) : Except EdgeError Store :=
  match source, target with
  | some n, some m =>
    match s.find? n.id with
    | none => .error (.unknownSource n.id)
    | some n' =>
      match s.find? m.id with
      | none => .error (.unknownTarget m.id)
      | some m' => .ok (s.record ⟨n', m'⟩ m.id)
  | _, _ => .error (.noEndpoint (source.map (·.id)) (target.map (·.id)))

/-- The number of edges that were counted for an identifier. -/
def inDegree (s : Store) (id : Text) : Nat := s.incoming id

/-- The identifiers called by a node, in edge order and with repetitions. -/
def successors (s : Store) (id : Text) : List Text :=
  (s.edges.filter (·.source.id == id)).map (·.target.id)

/-- The index and the counter say what is in the lists. -/
structure Consistent (s : Store) : Prop where
  index_eq : ∀ id, s.index id = s.nodes.findIdx? (·.id == id)
  incoming_eq : ∀ id, s.incoming id = s.edges.countP (·.target.id == id)

/-- The empty tables are consistent. -/
theorem Consistent.empty : Consistent {} := ⟨fun _ => rfl, fun _ => rfl⟩

/-- A node that is added is indexed at its position. -/
theorem Consistent.addNode {s : Store} (h : s.Consistent) (n : Node) : (s.addNode n).Consistent := by
  unfold Store.addNode
  split
  · exact h
  · rename_i hnew
    refine ⟨fun id => ?_, h.incoming_eq⟩
    simp only [put, List.findIdx?_append, ← h.index_eq]
    by_cases hid : id = n.id
    · subst hid
      simp [hnew, List.findIdx?_cons]
    · simp [hid, Ne.symm hid, List.findIdx?_cons]

/-- What the index finds is the first node with the identifier. -/
theorem Consistent.find?_eq {s : Store} (h : s.Consistent) (id : Text) :
    s.find? id = s.nodes.find? (·.id == id) := by
  rw [find?, h.index_eq, List.find?_eq_bind_findIdx?_getElem?]

/-- What is found under an identifier has it. -/
theorem Consistent.id_of_find? {s : Store} (h : s.Consistent) {id : Text} {n : Node}
    (hfound : s.find? id = some n) : n.id = id := by
  rw [h.find?_eq] at hfound
  simpa using List.find?_some hfound

/-- An edge that is counted for its target is counted once. -/
theorem Consistent.record {s : Store} (h : s.Consistent) (e : Edge) :
    (s.record e e.target.id).Consistent := by
  refine ⟨h.index_eq, fun id => ?_⟩
  simp only [Store.record, put, List.countP_append, List.countP_singleton, ← h.incoming_eq]
  by_cases hid : id = e.target.id
  · simp [hid]
  · simp [hid, Ne.symm hid]

/-- An edge that is accepted is counted for its target. -/
theorem Consistent.exists_record {s s' : Store} (h : s.Consistent) {source target : Option Node}
    (hedge : s.addEdge source target = .ok s') : ∃ e, s' = s.record e e.target.id := by
  unfold Store.addEdge at hedge
  split at hedge
  · rename_i n m
    split at hedge
    · cases hedge
    · rename_i n' hn
      split at hedge
      · cases hedge
      · rename_i m' hm
        refine ⟨⟨n', m'⟩, ?_⟩
        rw [h.id_of_find? hm]
        exact (Except.ok.inj hedge).symm
  · cases hedge

/-- An edge that is accepted keeps the tables consistent. -/
theorem Consistent.addEdge {s s' : Store} (h : s.Consistent) {source target : Option Node}
    (hedge : s.addEdge source target = .ok s') : s'.Consistent := by
  obtain ⟨e, rfl⟩ := h.exists_record hedge
  exact h.record e

end Store

end Graph

/-- A directed multigraph in insertion order: tables that are consistent. -/
structure Graph extends Graph.Store where
  consistent : toStore.Consistent := by exact .empty

namespace Graph

/-- Add a node unless its identifier is known. -/
def addNode (g : Graph) (n : Node) : Graph := ⟨g.toStore.addNode n, g.consistent.addNode n⟩

/-- Add an edge between the stored nodes of two identifiers. -/
def addEdge (g : Graph) (source target : Option Node) : Except EdgeError Graph :=
  match h : g.toStore.addEdge source target with
  | .ok s => .ok ⟨s, g.consistent.addEdge h⟩
  | .error e => .error e

/-- Graphs with the same nodes and edges have the same index and counter. -/
@[ext]
theorem ext {g g' : Graph} (hnodes : g.nodes = g'.nodes) (hedges : g.edges = g'.edges) : g = g' := by
  obtain ⟨⟨nodes, index, edges, incoming⟩, hindex, hincoming⟩ := g
  obtain ⟨⟨nodes', index', edges', incoming'⟩, hindex', hincoming'⟩ := g'
  obtain rfl : nodes = nodes' := hnodes
  obtain rfl : edges = edges' := hedges
  obtain rfl : index = index' := funext fun id => (hindex id).trans (hindex' id).symm
  obtain rfl : incoming = incoming' := funext fun id => (hincoming id).trans (hincoming' id).symm
  rfl

instance : DecidableEq Graph := fun _ _ => decidable_of_iff _ Graph.ext_iff.symm

end Graph

end RoleGraph
