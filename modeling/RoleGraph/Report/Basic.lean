import RoleGraph.Graph.Basic

/-!
# Summary of a call graph

How large the graph is, which task files are called most often and how many task files each role
contributes. The two lists are ordered by count, the largest first, and then by name, so the
summary does not depend on the order in which nodes were added.
-/

namespace RoleGraph

/-- A task file with its number of calls and of distinct callees. -/
structure Hotspot where
  id : Text
  role : Text
  callers : Nat
  callees : Nat
  deriving DecidableEq, Repr

/-- How many task files of a role the graph holds. -/
structure RoleSize where
  role : Text
  taskFiles : Nat
  deriving DecidableEq, Repr

/-- The statistics of a graph. -/
structure Summary where
  playbooks : Nat
  taskFiles : Nat
  roles : Nat
  edges : Nat
  hotspots : List Hotspot
  roleSizes : List RoleSize
  deriving DecidableEq, Repr

/-- Larger counts come first, equal counts by name. -/
def rankBefore (countA : Nat) (nameA : Text) (countB : Nat) (nameB : Text) : Bool :=
  if countA = countB then Text.le nameA nameB else countB < countA

/-- The elements without repetitions, each at its last occurrence. -/
def distinct : List Text → List Text
  | [] => []
  | t :: rest => if t ∈ rest then distinct rest else t :: distinct rest

namespace Graph.Store

/-- The task nodes of a graph. -/
def taskNodes (s : Store) : List Node := s.nodes.filter (·.kind == .task)

/-- The playbook nodes of a graph. -/
def playbookNodes (s : Store) : List Node := s.nodes.filter (·.kind == .playbook)

/-- The statistics of one task file. -/
def hotspot (s : Store) (n : Node) : Hotspot :=
  ⟨n.id, n.role, s.inDegree n.id, (distinct (s.successors n.id)).length⟩

/-- All task files with at least one caller, the most called first. -/
def hotspots (s : Store) : List Hotspot :=
  ((s.taskNodes.map s.hotspot).filter (0 < ·.callers)).mergeSort
    fun a b => rankBefore a.callers a.id b.callers b.id

/-- The number of task files per role, the largest first. -/
def roleSizes (s : Store) : List RoleSize :=
  let roles := s.taskNodes.map (·.role)
  ((distinct roles).map fun r => ⟨r, roles.count r⟩).mergeSort
    fun a b => rankBefore a.taskFiles a.role b.taskFiles b.role

/-- The summary with at most `top` hotspots; a limit below one keeps them all. -/
def summary (s : Store) (top : Int) : Summary :=
  { playbooks := s.playbookNodes.length
    taskFiles := s.taskNodes.length
    roles := s.roleSizes.length
    edges := s.edges.length
    hotspots := if 0 < top then s.hotspots.take top.toNat else s.hotspots
    roleSizes := s.roleSizes }

end Graph.Store

end RoleGraph
