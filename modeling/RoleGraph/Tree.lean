import RoleGraph.Location

/-!
# File trees

Files and directories as a tree. A place in it is the list of names on the way from the root; the
order in which a directory lists its entries carries no meaning.
-/

namespace RoleGraph

/-- A file with its content, or a directory with its entries. -/
inductive Tree where
  | file (content : Text)
  | directory (children : List (Text × Tree))

namespace Tree

/-- A directory without entries. -/
def empty : Tree := .directory []

/-- Whether a tree is a directory. -/
def isDirectory : Tree → Bool
  | .directory _ => true
  | .file _ => false

/-- The entries of a directory; a file has none. -/
def children : Tree → List (Text × Tree)
  | .directory cs => cs
  | .file _ => []

/-- What stands at a place. -/
def find? : Tree → List Text → Option Tree
  | t, [] => some t
  | t, name :: rest =>
    match t.children.lookup name with
    | some child => child.find? rest
    | none => none

/-- The place of the first file on the way to a place below it. -/
def obstacle? : Tree → List Text → Option (List Text)
  | .file _, _ :: _ => some []
  | _, [] => none
  | .directory cs, name :: rest =>
    match cs.lookup name with
    | some child => (child.obstacle? rest).map (name :: ·)
    | none => none

/-- Replace or add an entry of a directory. -/
def setChild (name : Text) (child : Tree) : List (Text × Tree) → List (Text × Tree)
  | [] => [(name, child)]
  | (n, t) :: rest => if n = name then (name, child) :: rest else (n, t) :: setChild name child rest

/-- Put a tree at a place. Missing directories on the way are created, and a file on the way gives
way to a directory. -/
def put : Tree → List Text → Tree → Tree
  | _, [], new => new
  | t, name :: rest, new =>
    let child := (t.children.lookup name).getD empty
    .directory (setChild name (child.put rest new) t.children)

/-- Create a directory, unless there is one. -/
def makeDirectory (t : Tree) (place : List Text) : Tree :=
  match t.find? place with
  | some (.directory _) => t
  | _ => t.put place empty

mutual

/-- All files with their places. -/
def files : Tree → List (List Text × Text)
  | .file content => [([], content)]
  | .directory cs => childFiles cs

/-- All files below the entries of a directory. -/
def childFiles : List (Text × Tree) → List (List Text × Text)
  | [] => []
  | (name, t) :: rest => (t.files.map fun (place, content) => (name :: place, content)) ++ childFiles rest

end

end Tree

end RoleGraph
