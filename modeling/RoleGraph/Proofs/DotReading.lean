import RoleGraph.Proofs.GraphOperations
import RoleGraph.Proofs.Lexing
import RoleGraph.Render.Dot

/-!
# Drawings are read back

The text of a drawing is read in the language of graph drawing tools: a list of statements, each of
which is about a node with its attributes or about an edge. Names are kept as they stand between their
quotes. A quoted name is one token whatever bytes it was made from, so the statements that are read are
those that were written, and a name is read back from its quoted form. So a drawing tells the nodes and
the calls of its graph.
-/

namespace RoleGraph

namespace Dot

open Lexing (Token)

/-! ## The language -/

/-- A statement about a node or an edge; names and values stand as between their quotes. -/
inductive Statement where
  | node (name : Text) (attributes : List (Text × Text))
  | edge (source target : Text)
  deriving DecidableEq, Repr

/-- The bytes that are tokens of their own. An arrow is two of them. -/
def marks : Text := "\x7b\x7d[]=,;->"

/-- The name or the value that a token stands for. -/
def nameOf? : Token → Option Text
  | .quoted body => some body
  | .word t => some t
  | .mark _ => none

/-- Read statements up to the closing brace. The statement of a node whose attributes are being read is
pending. -/
def statements? : (pending : Option (Text × List (Text × Text))) → List Token → Option (List Statement)
  | none, [.mark '\x7d'] => some []
  | none, source :: .mark '-' :: .mark '>' :: target :: .mark ';' :: rest => do
    let source ← nameOf? source
    let target ← nameOf? target
    let later ← statements? none rest
    return .edge source target :: later
  | none, name :: .mark '[' :: rest => do
    let name ← nameOf? name
    statements? (some (name, [])) rest
  | some (name, before), .word key :: .mark '=' :: value :: .mark ',' :: rest => do
    let value ← nameOf? value
    statements? (some (name, before ++ [(key, value)])) rest
  | some (name, before), .word key :: .mark '=' :: value :: .mark ']' :: .mark ';' :: rest => do
    let value ← nameOf? value
    let later ← statements? none rest
    return .node name (before ++ [(key, value)]) :: later
  | _, _ => none

/-- The statements of a drawing of a graph with directed edges. -/
def read? (t : Text) : Option (List Statement) :=
  match Lexing.tokens? marks t with
  | some (.word keyword :: .word _ :: .mark '\x7b' :: rest) =>
    if keyword = Text.ofString "digraph" then statements? none rest else none
  | _ => none

/-! ## The statements of a graph -/

/-- The statement about a node. -/
def nodeStatement (n : Node) : Statement :=
  .node (Text.spelled n.id)
    [("fillcolor", n.look.fill), ("label", Text.spelled n.label), ("margin", n.look.margin),
      ("shape", n.look.shape), ("style", n.look.style)]

/-- The statement about an edge. -/
def edgeStatement (e : Edge) : Statement := .edge (Text.spelled e.source.id) (Text.spelled e.target.id)

/-- The tokens of an edge. -/
def edgeTokens (e : Edge) : List Token :=
  [.quoted (Text.spelled e.source.id), .mark '-', .mark '>', .quoted (Text.spelled e.target.id), .mark ';']

/-- The tokens of a node. -/
def nodeTokens (n : Node) : List Token :=
  [.quoted (Text.spelled n.id), .mark '[', .word "fillcolor", .mark '=', .word n.look.fill, .mark ',',
    .word "label", .mark '=', .quoted (Text.spelled n.label), .mark ',',
    .word "margin", .mark '=', .quoted n.look.margin, .mark ',',
    .word "shape", .mark '=', .word n.look.shape, .mark ',',
    .word "style", .mark '=', .word n.look.style, .mark ']', .mark ';']

/-- An edge is cut into its tokens. -/
theorem scan_edgeLine (e : Edge) : Lexing.scan marks .between (edgeLine e) = (edgeTokens e, .between) := by
  have htab : Lexing.scan marks .between (Text.ofString "\t") = ([], .between) := by decide
  have harrow : Lexing.scan marks .between (Text.ofString "->") = ([.mark '-', .mark '>'], .between) := by decide
  have hend : Lexing.scan marks .between (Text.ofString ";\n") = ([.mark ';'], .between) := by decide
  exact Lexing.scan_append (Lexing.scan_append (Lexing.scan_append (Lexing.scan_append htab
    (Lexing.scan_quote _)) harrow) (Lexing.scan_quote _)) hend

/-- The looks of playbooks and task files. -/
def looks : List Look := [.playbook, .task]

/-- The line of a node with one of these looks. -/
theorem nodeLine_eq {n : Node} (h : n.look ∈ looks) :
    nodeLine n = Text.ofString "\t" ++ (Text.quote n.id ++
      ((Text.ofString " [ fillcolor=" ++ (n.look.fill ++ Text.ofString ", label=")) ++
        (Text.quote n.label ++ (Text.ofString ", margin=\"0.5\", shape=" ++
          (n.look.shape ++ Text.ofString ", style=filled ];\n"))))) := by
  have hlook : ∀ look ∈ looks, look.fill ≠ [] ∧ Text.quote look.margin = Text.ofString "\"0.5\"" ∧
      look.margin ≠ [] ∧ look.shape ≠ [] ∧ look.style = Text.ofString "filled" := by decide
  obtain ⟨hfill, hmargin, hgiven, hshape, hstyle⟩ := hlook _ h
  have hattributes : attributes n = [(Text.ofString "fillcolor", n.look.fill),
      (Text.ofString "label", Text.quote n.label), (Text.ofString "margin", Text.ofString "\"0.5\""),
      (Text.ofString "shape", n.look.shape), (Text.ofString "style", Text.ofString "filled")] := by
    have hlabel : Text.quote n.label ≠ [] := List.cons_ne_nil _ _
    have hwords : Text.ofString "\"0.5\"" ≠ [] ∧ Text.ofString "filled" ≠ [] := by decide
    simp [attributes, hfill, hlabel, hmargin, hgiven, hshape, hstyle, hwords]
  rw [nodeLine, hattributes]
  simp only [List.map, Text.joinWith, List.append_assoc]
  rfl

/-- A node is cut into its tokens. -/
theorem scan_nodeLine {n : Node} (h : n.look ∈ looks) :
    Lexing.scan marks .between (nodeLine n) = (nodeTokens n, .between) := by
  have htab : Lexing.scan marks .between (Text.ofString "\t") = ([], .between) := by decide
  have hbefore : ∀ look ∈ looks,
      Lexing.scan marks .between (Text.ofString " [ fillcolor=" ++ (look.fill ++ Text.ofString ", label=")) =
        ([.mark '[', .word "fillcolor", .mark '=', .word look.fill, .mark ',', .word "label", .mark '='],
          .between) := by
    decide
  have hafter : ∀ look ∈ looks,
      Lexing.scan marks .between (Text.ofString ", margin=\"0.5\", shape=" ++
        (look.shape ++ Text.ofString ", style=filled ];\n")) =
        ([.mark ',', .word "margin", .mark '=', .quoted look.margin, .mark ',',
          .word "shape", .mark '=', .word look.shape, .mark ',',
          .word "style", .mark '=', .word look.style, .mark ']', .mark ';'], .between) := by
    decide
  rw [nodeLine_eq h]
  exact Lexing.scan_append htab (Lexing.scan_append (Lexing.scan_quote _)
    (Lexing.scan_append (hbefore _ h) (Lexing.scan_append (Lexing.scan_quote _) (hafter _ h))))

/-! ## Reading the statements -/

/-- The tokens of an edge are read as its statement. -/
theorem statements?_edgeTokens (e : Edge) (rest : List Token) :
    statements? none (edgeTokens e ++ rest) = (statements? none rest).map (edgeStatement e :: ·) := by
  simp only [edgeTokens, List.cons_append, List.nil_append, statements?, nameOf?, edgeStatement]
  cases statements? none rest <;> rfl

/-- The tokens of a node are read as its statement. -/
theorem statements?_nodeTokens (n : Node) (rest : List Token) :
    statements? none (nodeTokens n ++ rest) = (statements? none rest).map (nodeStatement n :: ·) := by
  simp only [nodeTokens, List.cons_append, List.nil_append, statements?, nameOf?, nodeStatement]
  cases statements? none rest <;> rfl

/-- Parts that are read as one statement each are read in turn. -/
theorem statements?_flatMap {α : Type} {tokens : α → List Token} {statement : α → Statement}
    (h : ∀ a rest, statements? none (tokens a ++ rest) = (statements? none rest).map (statement a :: ·))
    (items : List α) (rest : List Token) :
    statements? none (items.flatMap tokens ++ rest) =
      (statements? none rest).map (items.map statement ++ ·) := by
  induction items with
  | nil => simp
  | cons a items ih =>
    rw [List.flatMap_cons, List.append_assoc, h, ih, Option.map_map]
    rfl

/-- The nodes are drawn in another order than that of the graph. -/
theorem sortedNodes_perm (g : Graph) : (sortedNodes g).Perm g.nodes := List.mergeSort_perm _ _

/-- A drawing has one statement for each edge, and then one for each node. -/
theorem read?_render {g : Graph} (h : ∀ n ∈ g.nodes, n.look ∈ looks) :
    read? (render g) = some (g.edges.map edgeStatement ++ (sortedNodes g).map nodeStatement) := by
  have hopen : Lexing.scan marks .between (Text.ofString "digraph playgraph \x7b\n") =
      ([.word "digraph", .word "playgraph", .mark '\x7b'], .between) := by decide
  have hclose : Lexing.scan marks .between (Text.ofString "\n\x7d\n") = ([.mark '\x7d'], .between) := by decide
  have hedges : Lexing.scan marks .between (g.edges.flatMap edgeLine) =
      (g.edges.flatMap edgeTokens, .between) := Lexing.scan_flatMap fun e _ => scan_edgeLine e
  have hnodes : Lexing.scan marks .between ((sortedNodes g).flatMap nodeLine) =
      ((sortedNodes g).flatMap nodeTokens, .between) :=
    Lexing.scan_flatMap fun n hn => scan_nodeLine (h n ((sortedNodes_perm g).mem_iff.mp hn))
  have hscan := Lexing.scan_append (Lexing.scan_append (Lexing.scan_append hopen hedges) hnodes) hclose
  have htokens : Lexing.tokens? marks (render g) = some (.word "digraph" :: .word "playgraph" :: .mark '\x7b' ::
      (g.edges.flatMap edgeTokens ++ ((sortedNodes g).flatMap nodeTokens ++ [.mark '\x7d']))) := by
    rw [Lexing.tokens?, render, hscan]
    simp only [List.append_assoc]
    rfl
  rw [read?, htokens]
  simp only [if_true, statements?_flatMap statements?_edgeTokens, statements?_flatMap statements?_nodeTokens]
  rw [statements?, Option.map_some, Option.map_some, List.append_nil]

/-! ## What a drawing tells -/

/-- The kind that a shape stands for. -/
def kindOf? (shape : Text) : Option Kind :=
  if shape = Look.playbook.shape then some .playbook
  else if shape = Look.task.shape then some .task
  else none

/-- The identifier, the label and the kind of a node. -/
def profile (n : Node) : Text × Text × Kind := (n.id, n.label, n.kind)

/-- The call that a statement is about. -/
def Statement.call? : Statement → Option (Text × Text)
  | .edge source target => do return (← Text.unspelled? source, ← Text.unspelled? target)
  | .node _ _ => none

/-- The identifier, the label and the kind of the node that a statement is about. -/
def Statement.profile? : Statement → Option (Text × Text × Kind)
  | .node name attributes => do
    let id ← Text.unspelled? name
    let label ← (attributes.lookup (Text.ofString "label")).bind Text.unspelled?
    let kind ← (attributes.lookup (Text.ofString "shape")).bind kindOf?
    return (id, label, kind)
  | .edge _ _ => none

/-- A node is drawn as a playbook or as a task file. -/
def IsDrawn (n : Node) : Prop :=
  (n.kind = .playbook ∧ n.look = .playbook) ∨ (n.kind = .task ∧ n.look = .task)

/-- A drawn node has one of the looks. -/
theorem IsDrawn.look {n : Node} (h : IsDrawn n) : n.look ∈ looks := by
  rcases h with ⟨-, h⟩ | ⟨-, h⟩
  · exact h ▸ List.mem_cons_self
  · exact h ▸ List.mem_cons_of_mem _ List.mem_cons_self

/-- The statement about a node tells what it is about. -/
theorem profile?_nodeStatement {n : Node} (h : IsDrawn n) :
    (nodeStatement n).profile? = some (profile n) ∧ (nodeStatement n).call? = none := by
  refine ⟨?_, rfl⟩
  have hkind : kindOf? n.look.shape = some n.kind := by
    rcases h with ⟨hkind, hlook⟩ | ⟨hkind, hlook⟩
    · rw [hkind, hlook]
      decide
    · rw [hkind, hlook]
      decide
  have hparts : (nodeStatement n).profile? = (Text.unspelled? (Text.spelled n.id)).bind fun id =>
      (Text.unspelled? (Text.spelled n.label)).bind fun label =>
        (kindOf? n.look.shape).bind fun kind => some (id, label, kind) := rfl
  rw [hparts, Text.unspelled?_spelled, Text.unspelled?_spelled, hkind]
  rfl

/-- The statement about an edge tells the call. -/
theorem call?_edgeStatement (e : Edge) :
    (edgeStatement e).call? = some (e.source.id, e.target.id) ∧ (edgeStatement e).profile? = none := by
  refine ⟨?_, rfl⟩
  have hparts : (edgeStatement e).call? = (Text.unspelled? (Text.spelled e.source.id)).bind fun source =>
      (Text.unspelled? (Text.spelled e.target.id)).bind fun target => some (source, target) := rfl
  rw [hparts, Text.unspelled?_spelled, Text.unspelled?_spelled]
  rfl

/-- The calls and the nodes of a graph are read off its drawing. -/
theorem told_of_render {g : Graph} (h : ∀ n ∈ g.nodes, IsDrawn n) :
    (read? (render g)).map (·.filterMap Statement.call?) = some g.calls ∧
      (read? (render g)).map (·.filterMap Statement.profile?) = some ((sortedNodes g).map profile) := by
  have hsorted : ∀ n ∈ sortedNodes g, IsDrawn n := fun n hn => h n ((sortedNodes_perm g).mem_iff.mp hn)
  have hedgeCalls : (g.edges.map edgeStatement).filterMap Statement.call? = g.calls := by
    rw [List.filterMap_map, Graph.Store.calls, ← List.filterMap_eq_map]
    exact congrArg (List.filterMap · g.edges) (funext fun e => (call?_edgeStatement e).1)
  have hedgeProfiles : (g.edges.map edgeStatement).filterMap Statement.profile? = [] :=
    List.filterMap_eq_nil_iff.mpr (by simp [call?_edgeStatement])
  have hnodeCalls : ((sortedNodes g).map nodeStatement).filterMap Statement.call? = [] := by
    rw [List.filterMap_eq_nil_iff]
    intro statement hstatement
    obtain ⟨n, hn, rfl⟩ := List.mem_map.mp hstatement
    exact (profile?_nodeStatement (hsorted n hn)).2
  have hnodeProfiles : ((sortedNodes g).map nodeStatement).filterMap Statement.profile? =
      (sortedNodes g).map profile := by
    rw [List.filterMap_map, ← List.filterMap_eq_map]
    exact List.filterMap_congr fun n hn => (profile?_nodeStatement (hsorted n hn)).1
  rw [read?_render fun n hn => (h n hn).look]
  refine ⟨?_, ?_⟩
  · rw [Option.map_some, List.filterMap_append, hedgeCalls, hnodeCalls, List.append_nil]
  · rw [Option.map_some, List.filterMap_append, hedgeProfiles, hnodeProfiles, List.nil_append]

/-- A node that was made for a playbook or for a task file. -/
inductive IsMade : Node → Prop
  | playbook (location : Text) : IsMade (.playbook location)
  | task (role file : Text) : IsMade (.task role file)

/-- Nodes that were made for playbooks and task files are drawn as such. -/
theorem isDrawn_build {ops : List Graph.Operation} (h : ∀ n ∈ Graph.added ops, IsMade n) :
    ∀ n ∈ (Graph.build ops).nodes, IsDrawn n := by
  intro n hn
  cases h n (Graph.mem_added_of_mem_nodes ops n hn) with
  | playbook location => exact Or.inl ⟨rfl, rfl⟩
  | task role file => exact Or.inr ⟨rfl, rfl⟩

/-- A drawing has exactly one statement for each node and for each recorded edge, and two graphs with
one drawing have the same nodes and the same calls, repeated ones included. -/
theorem render_lossless {ops ops' : List Graph.Operation} (h : ∀ n ∈ Graph.added ops, IsMade n)
    (h' : ∀ n ∈ Graph.added ops', IsMade n) :
    (∃ statements, read? (render (Graph.build ops)) = some statements ∧
      statements.Perm ((Graph.build ops).nodes.map nodeStatement ++ (Graph.build ops).edges.map edgeStatement)) ∧
    (render (Graph.build ops) = render (Graph.build ops') →
      ((Graph.build ops).nodes.map profile).Perm ((Graph.build ops').nodes.map profile) ∧
        (Graph.build ops).calls.Perm (Graph.build ops').calls) := by
  have hdrawn := isDrawn_build h
  refine ⟨⟨_, read?_render fun n hn => (hdrawn n hn).look, ?_⟩, fun heq => ?_⟩
  · exact List.perm_append_comm.trans (((sortedNodes_perm _).map _).append_right _)
  · obtain ⟨hcalls, hprofiles⟩ := told_of_render hdrawn
    obtain ⟨hcalls', hprofiles'⟩ := told_of_render (isDrawn_build h')
    rw [heq] at hcalls hprofiles
    have hsorted := Option.some.inj (hprofiles.symm.trans hprofiles')
    refine ⟨?_, .of_eq (Option.some.inj (hcalls.symm.trans hcalls'))⟩
    have hnodes := (sortedNodes_perm (Graph.build ops)).map profile
    rw [hsorted] at hnodes
    exact hnodes.symm.trans ((sortedNodes_perm _).map profile)

/-- A playbook whose name has a quote and an arrow. -/
def arrowPlaybook : Node := .playbook "/a\"->b.yml"

/-- A task file whose name has a line break and a byte of no character. -/
def strayTask : Node := .task "r" [0xFF, 0x0A]

/-- The playbook calls the task file twice. -/
def callTwice : List Graph.Operation :=
  [.addEdge (some arrowPlaybook) (some strayTask), .addEdge (some arrowPlaybook) (some strayTask)]

/-- The order in which nodes are added does not show in a drawing, and neither does a refused edge. -/
theorem render_lossless_callTwice :
    let ops := [.addNode arrowPlaybook, .addNode strayTask] ++ callTwice
    let ops' := [.addNode strayTask, .addEdge none none, .addNode arrowPlaybook] ++ callTwice
    render (Graph.build ops) = render (Graph.build ops') ∧
      ((Graph.build ops).nodes.map profile).Perm ((Graph.build ops').nodes.map profile) ∧
        (Graph.build ops).calls.Perm (Graph.build ops').calls := by
  intro ops ops'
  have hadded : ∀ n ∈ Graph.added ops, IsMade n :=
    List.forall_mem_cons.mpr ⟨.playbook _, List.forall_mem_cons.mpr ⟨.task _ _, List.forall_mem_nil _⟩⟩
  have hadded' : ∀ n ∈ Graph.added ops', IsMade n :=
    List.forall_mem_cons.mpr ⟨.task _ _, List.forall_mem_cons.mpr ⟨.playbook _, List.forall_mem_nil _⟩⟩
  obtain ⟨hnodes, hnodes', hedges⟩ : (Graph.build ops).nodes = [arrowPlaybook, strayTask] ∧
      (Graph.build ops').nodes = [strayTask, arrowPlaybook] ∧
      (Graph.build ops).edges = (Graph.build ops').edges := by decide +kernel
  have hle : Text.le (Text.quote arrowPlaybook.id) (Text.quote strayTask.id) = true ∧
      Text.le (Text.quote strayTask.id) (Text.quote arrowPlaybook.id) = false := by decide +kernel
  have hsorted : sortedNodes (Graph.build ops) = sortedNodes (Graph.build ops') := by
    simp [sortedNodes, hnodes, hnodes', List.mergeSort, List.MergeSort.Internal.splitInTwo, hle]
  have heq : render (Graph.build ops) = render (Graph.build ops') := by
    rw [render, render, hedges, hsorted]
  exact ⟨heq, (render_lossless hadded hadded').2 heq⟩

end Dot

end RoleGraph
