import RoleGraph.Graph.Basic
import RoleGraph.Json
import RoleGraph.Yaml.Block

/-!
# Graphs as structured documents

A document lists the nodes and the edges of a graph in insertion order. A node is written with its
identifier, label and kind, and with its role and file unless they are empty; an edge with the
identifiers of its ends.
-/

namespace RoleGraph

namespace Document

/-- The fields of a node in a document. -/
def nodeFields (n : Node) : List (Text × Text) :=
  let required : List (Text × Text) := [("id", n.id), ("label", n.label), ("kind", n.kind.name)]
  let optional : List (Text × Text) := [("role", n.role), ("file", n.file)]
  required ++ optional.filter (!·.2.isEmpty)

/-- The fields of an edge in a document. -/
def edgeFields (e : Edge) : List (Text × Text) := [("from", e.source.id), ("to", e.target.id)]

/-- A document in JSON. -/
def toJson (g : Graph) : Json :=
  let object (fields : List (Text × Text)) : Json := .object (fields.map fun (k, v) => (k, .str v))
  .object
    [("nodes", .array (g.nodes.map fun n => object (nodeFields n))),
      ("edges", .array (g.edges.map fun e => object (edgeFields e)))]

/-- The JSON text of a graph. -/
def json (g : Graph) : Text := (toJson g).pretty .document 0 ++ "\n"

/-- The YAML text of a graph. -/
def yaml (g : Graph) : Text :=
  let mapping (fields : List (Text × Text)) : Yaml.Block :=
    .mapping (fields.map fun (k, v) => (.str k, .str v))
  Yaml.Block.document
    [(.str "nodes", .list (g.nodes.map fun n => mapping (nodeFields n))),
      (.str "edges", .list (g.edges.map fun e => mapping (edgeFields e)))]

end Document

end RoleGraph
