import RoleGraph.Graph.Basic
import RoleGraph.Text.Quoted

/-!
# Drawings as text

A graph in the language of graph drawing tools: one statement per edge in insertion order, then one
per node in order of the quoted names. Names and labels are quoted, so different nodes have
different names.
-/

namespace RoleGraph

namespace Dot

/-- The drawing attributes of a node in order of their names; an empty one is left out, but every
node has a label. -/
def attributes (n : Node) : List (Text × Text) :=
  let fill : List (Text × Text) := [("fillcolor", n.look.fill)]
  let label : List (Text × Text) := [("label", Text.quote n.label)]
  let margin : List (Text × Text) := if n.look.margin.isEmpty then [] else
    [("margin", Text.quote n.look.margin)]
  let outline : List (Text × Text) := [("shape", n.look.shape), ("style", n.look.style)]
  (fill ++ label ++ margin ++ outline).filter (!·.2.isEmpty)

/-- The statement of a node. -/
def nodeLine (n : Node) : Text :=
  "\t" ++ Text.quote n.id ++ " [ " ++
    Text.joinWith ", " ((attributes n).map fun (k, v) => k ++ "=" ++ v) ++ " ];\n"

/-- The statement of an edge. -/
def edgeLine (e : Edge) : Text :=
  "\t" ++ Text.quote e.source.id ++ "->" ++ Text.quote e.target.id ++ ";\n"

/-- The nodes in order of their quoted names. -/
def sortedNodes (g : Graph) : List Node :=
  g.nodes.mergeSort fun a b => Text.le (Text.quote a.id) (Text.quote b.id)

/-- The drawing of a graph. -/
def render (g : Graph) : Text :=
  "digraph playgraph \x7b\n" ++ g.edges.flatMap edgeLine ++ (sortedNodes g).flatMap nodeLine ++
    "\n\x7d\n"

end Dot

end RoleGraph
