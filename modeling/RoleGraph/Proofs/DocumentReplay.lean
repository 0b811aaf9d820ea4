import RoleGraph.Proofs.GraphOperations
import RoleGraph.Proofs.JsonReading
import RoleGraph.Render.Document

/-!
# Graphs are rebuilt from their documents

A document names the ends of an edge by their identifiers only. In a graph that operations made every
identifier is stored once and both ends of an edge are stored, so adding the nodes of a document in
order and then its edges by identifier is never refused, and it gives the same nodes and the same
edges again. What is lost is how nodes are drawn.

The document itself is read back from its text, so the text tells the graph as long as its strings are
UTF-8.
-/

namespace RoleGraph

/-- The kind with a name has that name. -/
theorem Kind.name_ofName (t : Text) : (Kind.ofName t).name = t := by
  unfold ofName
  split
  · rename_i h
    exact h.symm
  · split
    · rename_i h
      exact h.symm
    · rfl

namespace Document

/-! ## Reading a document -/

/-- The text of a member of an object. -/
def text? (members : List (Text × Json)) (name : Text) : Option Text :=
  match members.lookup name with
  | some (.str t) => some t
  | _ => none

/-- The node that a document gives; a role or a file that is missing is empty. -/
def node? : Json → Option Node
  | .object members => do
    let id ← text? members "id"
    let label ← text? members "label"
    let kind ← text? members "kind"
    return { id := id, label := label, kind := .ofName kind,
             role := (text? members "role").getD [], file := (text? members "file").getD [] }
  | _ => none

/-- The ends of an edge that a document gives. -/
def edge? : Json → Option (Text × Text)
  | .object members => do return (← text? members "from", ← text? members "to")
  | _ => none

/-- Add an edge between two identifiers. -/
def addCall? (g : Graph) (ends : Text × Text) : Option Graph :=
  (g.addEdge (some { id := ends.1 }) (some { id := ends.2 })).toOption

/-- The items of a member of an object. -/
def items? (members : List (Text × Json)) (name : Text) : Option (List Json) :=
  match members.lookup name with
  | some (.array items) => some items
  | _ => none

/-- Add the nodes of a document in order, and then its edges. -/
def rebuild? : Json → Option Graph
  | .object members => do
    let nodes ← (← items? members "nodes").mapM node?
    let edges ← (← items? members "edges").mapM edge?
    edges.foldlM addCall? (nodes.foldl Graph.addNode {})
  | _ => none

/-! ## Rebuilding a graph -/

/-- A node without its look. -/
def plain (n : Node) : Node :=
  { id := n.id, label := n.label, kind := .ofName n.kind.name, role := n.role, file := n.file }

/-- A graph without the looks of its nodes. -/
def plainGraph (g : Graph) : Graph :=
  .ofLists (g.nodes.map plain) (g.edges.map fun e => ⟨plain e.source, plain e.target⟩)

/-- An object whose members are strings. -/
def strings (fields : List (Text × Text)) : Json := .object (fields.map fun (k, v) => (k, .str v))

/-- The document of a graph. -/
theorem toJson_eq (g : Graph) : toJson g = .object
    [("nodes", .array (g.nodes.map fun n => strings (nodeFields n))),
      ("edges", .array (g.edges.map fun e => strings (edgeFields e)))] := rfl

/-- The fields of a node are those of the node. -/
theorem node?_nodeFields (n : Node) : node? (strings (nodeFields n)) = some (plain n) := by
  rcases n with ⟨id, label, kind, role, file, look⟩
  cases role <;> cases file <;> rfl

/-- The fields of an edge are its ends. -/
theorem edge?_edgeFields (e : Edge) : edge? (strings (edgeFields e)) = some (e.source.id, e.target.id) := rfl

/-- What is read back one by one is read back as a list. -/
theorem mapM_map_eq_some {α β γ : Type} {f : β → Option γ} {h : α → β} {k : α → γ}
    (hk : ∀ a, f (h a) = some (k a)) (items : List α) : (items.map h).mapM f = some (items.map k) := by
  induction items with
  | nil => rfl
  | cons a items ih =>
    rw [List.map_cons, List.mapM_cons, hk, ih]
    rfl

/-- Nodes with identifiers of their own are added one after the other. -/
theorem foldl_addNode {nodes : List Node} {g : Graph} (h : (g.ids ++ nodes.map (·.id)).Nodup) :
    nodes.foldl Graph.addNode g = .ofLists (g.nodes ++ nodes) g.edges := by
  induction nodes generalizing g with
  | nil => exact Graph.ext (List.append_nil _).symm rfl
  | cons n nodes ih =>
    have hnew : n.id ∉ g.ids := by
      intro hmem
      exact List.disjoint_of_nodup_append h hmem List.mem_cons_self
    have hids : (g.addNode n).ids = g.ids ++ [n.id] := by
      rw [Graph.addNode_of_notMem hnew]
      simp [Graph.Store.ids]
    rw [List.foldl_cons, ih (by rw [hids, List.append_assoc]; exact h), Graph.addNode_of_notMem hnew]
    exact Graph.ext (List.append_assoc _ _ _) rfl

/-- A node is found without its look. -/
theorem find?_plainGraph (g : Graph) (id : Text) : (plainGraph g).find? id = (g.find? id).map plain := by
  rw [Graph.find?_eq, Graph.find?_eq]
  exact List.find?_map

/-- Edges between stored nodes are added one after the other. -/
theorem foldlM_addCall? {g : Graph} {edges : List Edge} (g' : Graph)
    (hnodes : g'.nodes = g.nodes.map plain)
    (h : ∀ e ∈ edges, g.find? e.source.id = some e.source ∧ g.find? e.target.id = some e.target) :
    (edges.map fun e => (e.source.id, e.target.id)).foldlM addCall? g' =
      some (.ofLists g'.nodes (g'.edges ++ edges.map fun e => ⟨plain e.source, plain e.target⟩)) := by
  induction edges generalizing g' with
  | nil => exact congrArg some (Graph.ext rfl (List.append_nil _).symm)
  | cons e edges ih =>
    obtain ⟨⟨hsource, htarget⟩, hedges⟩ := List.forall_mem_cons.mp h
    have hfind : ∀ id, g'.find? id = (g.find? id).map plain := by
      intro id
      rw [← find?_plainGraph, Graph.find?_eq, Graph.find?_eq, hnodes]
      rfl
    let next : Graph := .ofLists g'.nodes (g'.edges ++ [⟨plain e.source, plain e.target⟩])
    have hjoin : g'.join { id := e.source.id } { id := e.target.id } = next := by
      simp only [next, Graph.join, Graph.Store.stored, hfind, hsource, htarget, Option.map_some, Option.getD_some]
    have hknown : ∀ id n, g.find? id = some n → id ∈ g'.ids := by
      intro id n hn
      by_contra hunknown
      have hnone := (hfind id).symm.trans (Graph.find?_eq_none_iff.mpr hunknown)
      simp [hn] at hnone
    have hadd : addCall? g' (e.source.id, e.target.id) = some next := by
      have hedge : g'.addEdge (some { id := e.source.id }) (some { id := e.target.id }) =
          .ok (g'.join { id := e.source.id } { id := e.target.id }) :=
        Graph.addEdge_of_mem (hknown _ _ hsource) (hknown _ _ htarget)
      exact congrArg Except.toOption (hedge.trans (congrArg Except.ok hjoin))
    rw [List.map_cons, List.foldlM_cons, hadd, Option.bind_eq_bind, Option.bind_some, ih next hnodes hedges]
    exact congrArg some (Graph.ext rfl (List.append_assoc _ _ _))

/-- The graph of a document is the graph that it was written for. -/
theorem rebuild?_toJson {g : Graph} (h : g.Sound) : rebuild? (toJson g) = some (plainGraph g) := by
  have hnodes := mapM_map_eq_some node?_nodeFields g.nodes
  have hedges := mapM_map_eq_some edge?_edgeFields g.edges
  have hids : (({} : Graph).ids ++ (g.nodes.map plain).map (·.id)).Nodup := by
    rw [List.map_map]
    exact h.nodup
  have hadded : (g.nodes.map plain).foldl Graph.addNode {} = .ofLists (g.nodes.map plain) [] :=
    foldl_addNode hids
  have hlinked := foldlM_addCall? (.ofLists (g.nodes.map plain) []) rfl
    fun e he => ⟨h.source_stored e he, h.target_stored e he⟩
  have hparts : rebuild? (toJson g) = ((g.nodes.map fun n => strings (nodeFields n)).mapM node?).bind fun nodes =>
      ((g.edges.map fun e => strings (edgeFields e)).mapM edge?).bind fun edges =>
        edges.foldlM addCall? (nodes.foldl Graph.addNode {}) := rfl
  rw [hparts, hnodes, Option.bind_some, hedges, Option.bind_some, hadded, hlinked]
  rfl

/-! ## Reading the text -/

/-- The strings of a node are UTF-8. -/
structure IsUtf8 (n : Node) : Prop where
  id : Text.isUtf8 n.id = true
  label : Text.isUtf8 n.label = true
  kind : Text.isUtf8 n.kind.name = true
  role : Text.isUtf8 n.role = true
  file : Text.isUtf8 n.file = true

/-- An object of strings is read back. -/
theorem reads_strings {fields : List (Text × Text)} (level : Nat)
    (h : ∀ f ∈ fields, Text.isUtf8 f.1 = true ∧ Text.isUtf8 f.2 = true) :
    Json.Reads ((strings fields).pretty .document level) (strings fields) := by
  refine Json.reads_object fun m hm => ?_
  obtain ⟨f, hf, rfl⟩ := List.mem_map.mp hm
  exact ⟨(h f hf).1, Json.reads_str (h f hf).2 _⟩

/-- The fields of a node are UTF-8 when its strings are. -/
theorem isUtf8_nodeFields {n : Node} (h : IsUtf8 n) :
    ∀ f ∈ nodeFields n, Text.isUtf8 f.1 = true ∧ Text.isUtf8 f.2 = true := by
  have hall : ∀ f ∈ [((Text.ofString "id"), n.id), (Text.ofString "label", n.label),
      (Text.ofString "kind", n.kind.name), (Text.ofString "role", n.role), (Text.ofString "file", n.file)],
      Text.isUtf8 f.1 = true ∧ Text.isUtf8 f.2 = true := by
    simp only [List.forall_mem_cons]
    exact ⟨⟨by decide +kernel, h.id⟩, ⟨by decide +kernel, h.label⟩, ⟨by decide +kernel, h.kind⟩,
      ⟨by decide +kernel, h.role⟩, ⟨by decide +kernel, h.file⟩, List.forall_mem_nil _⟩
  intro f hf
  refine hall f ?_
  rcases List.mem_append.mp hf with hf | hf
  · exact List.mem_append_left [_, _] hf
  · exact List.mem_append_right [_, _, _] (List.mem_filter.mp hf).1

/-- The fields of an edge are UTF-8 when the identifiers of its ends are. -/
theorem isUtf8_edgeFields {e : Edge} (hsource : IsUtf8 e.source) (htarget : IsUtf8 e.target) :
    ∀ f ∈ edgeFields e, Text.isUtf8 f.1 = true ∧ Text.isUtf8 f.2 = true :=
  List.forall_mem_cons.mpr ⟨⟨(by decide +kernel : Text.isUtf8 (Text.ofString "from") = true), hsource.id⟩,
    List.forall_mem_cons.mpr ⟨⟨(by decide +kernel : Text.isUtf8 (Text.ofString "to") = true), htarget.id⟩,
      List.forall_mem_nil _⟩⟩

/-- The text of a document is read back as the document. -/
theorem decode?_json {g : Graph} (h : g.Sound) (hnodes : ∀ n ∈ g.nodes, IsUtf8 n) :
    Json.decode? (json g) = some (toJson g) := by
  have hnodeItems : ∀ v ∈ g.nodes.map (fun n => strings (nodeFields n)), Json.Reads (v.pretty .document 2) v := by
    intro v hv
    obtain ⟨n, hn, rfl⟩ := List.mem_map.mp hv
    exact reads_strings 2 (isUtf8_nodeFields (hnodes n hn))
  have hedgeItems : ∀ v ∈ g.edges.map (fun e => strings (edgeFields e)), Json.Reads (v.pretty .document 2) v := by
    intro v hv
    obtain ⟨e, he, rfl⟩ := List.mem_map.mp hv
    exact reads_strings 2 (isUtf8_edgeFields (hnodes _ (Graph.mem_of_find? (h.source_stored e he)))
      (hnodes _ (Graph.mem_of_find? (h.target_stored e he))))
  have hdocument : Json.Reads ((toJson g).pretty .document 0) (toJson g) := by
    rw [toJson_eq]
    refine Json.reads_object (List.forall_mem_cons.mpr ⟨⟨?_, Json.reads_array hnodeItems⟩,
      List.forall_mem_cons.mpr ⟨⟨?_, Json.reads_array hedgeItems⟩, List.forall_mem_nil _⟩⟩)
    · exact (by decide +kernel : Text.isUtf8 (Text.ofString "nodes") = true)
    · exact (by decide +kernel : Text.isUtf8 (Text.ofString "edges") = true)
  exact hdocument.lineBreak.decode

/-- What a document tells of a node. -/
def record (n : Node) : Text × Text × Text × Text × Text := (n.id, n.label, n.kind.name, n.role, n.file)

/-- A node keeps its record when it loses its look. -/
theorem record_plain (n : Node) : record (plain n) = record n := by
  rw [record, plain, Kind.name_ofName]
  rfl

/-- The JSON text of a graph tells the graph: when its strings are UTF-8, the text has a value, adding
the nodes and the edges of that value succeeds, and it gives the same nodes, the same edges with
repetitions and the same numbers of edges into each identifier. -/
theorem json_determines (ops : List Graph.Operation) (h : ∀ n ∈ (Graph.build ops).nodes, IsUtf8 n) :
    ∃ document g, Json.decode? (json (Graph.build ops)) = some document ∧ rebuild? document = some g ∧
      g.nodes.map record = (Graph.build ops).nodes.map record ∧
      (g.edges.map fun e => (record e.source, record e.target)) =
        (Graph.build ops).edges.map (fun e => (record e.source, record e.target)) ∧
      g.calls = (Graph.build ops).calls ∧
      ∀ id, g.inDegree id = (Graph.build ops).inDegree id := by
  have hsound := Graph.sound_build ops
  have hcalls : (plainGraph (Graph.build ops)).calls = (Graph.build ops).calls := by
    rw [Graph.Store.calls, plainGraph, Graph.edges_ofLists, List.map_map]
    rfl
  refine ⟨_, _, decode?_json hsound h, rebuild?_toJson hsound, ?_, ?_, hcalls, fun id => ?_⟩
  · simp only [plainGraph, Graph.nodes_ofLists, List.map_map, Function.comp_def, record_plain]
  · simp only [plainGraph, Graph.edges_ofLists, List.map_map, Function.comp_def, record_plain]
  · rw [Graph.inDegree_eq_calls, Graph.inDegree_eq_calls, hcalls]

/-- A node whose strings have markup, quotes, a control character and an escape of a line. -/
def markedNode : Node := { id := "<a>&\"\\", label := "\u2028\x01\n", kind := .other "\t", file := "é" }

/-- A node that is called by itself, twice, is read back. -/
theorem json_determines_markedNode :
    let ops : List Graph.Operation := [.addNode markedNode, .addEdge (some markedNode) (some markedNode),
      .addEdge (some markedNode) none, .addEdge (some markedNode) (some markedNode)]
    (Graph.build ops).edges.length = 2 ∧
      ∃ document g, Json.decode? (json (Graph.build ops)) = some document ∧ rebuild? document = some g ∧
        g.nodes.map record = (Graph.build ops).nodes.map record ∧
        (g.edges.map fun e => (record e.source, record e.target)) =
          (Graph.build ops).edges.map (fun e => (record e.source, record e.target)) ∧
        g.calls = (Graph.build ops).calls ∧
        ∀ id, g.inDegree id = (Graph.build ops).inDegree id := by
  intro ops
  have hgraph : (Graph.build ops).nodes = [markedNode] ∧ (Graph.build ops).edges.length = 2 := by
    decide +kernel
  have hmarked : IsUtf8 markedNode :=
    ⟨by decide +kernel, by decide +kernel, by decide +kernel, by decide +kernel, by decide +kernel⟩
  have hutf8 : ∀ n ∈ (Graph.build ops).nodes, IsUtf8 n := by
    rw [hgraph.1]
    exact List.forall_mem_cons.mpr ⟨hmarked, List.forall_mem_nil _⟩
  exact ⟨hgraph.2, json_determines ops hutf8⟩

end Document

end RoleGraph
