import RoleGraph.Location

/-!
# Nodes of the call graph

A node stands for a playbook or for a task file of a role. Its identifier is built from the base
name of the file, so a file keeps its identity however it is spelled; the label keeps the spelling
of the first caller.
-/

namespace RoleGraph

/-- What a node stands for. -/
inductive Kind where
  | playbook
  | task
  /-- A kind this library gives no meaning to. -/
  | other (name : Text)
  deriving DecidableEq, Repr

/-- The written name of a kind. -/
def Kind.name : Kind → Text
  | .playbook => "playbook"
  | .task => "task"
  | .other n => n

/-- The kind with a given name. -/
def Kind.ofName (n : Text) : Kind :=
  if n = Text.ofString "playbook" then .playbook
  else if n = Text.ofString "task" then .task
  else .other n

/-- How a node is drawn; an empty attribute is not written. -/
structure Look where
  shape : Text := []
  fill : Text := []
  margin : Text := []
  style : Text := []
  deriving DecidableEq, Repr

/-- Playbooks are filled ellipses. -/
def Look.playbook : Look := ⟨"ellipse", "azure", "0.5", "filled"⟩

/-- Task files are filled rectangles. -/
def Look.task : Look := ⟨"rectangle", "aliceblue", "0.5", "filled"⟩

/-- A playbook or a task file. -/
structure Node where
  id : Text
  label : Text := []
  kind : Kind := .other []
  role : Text := []
  file : Text := []
  look : Look := {}
  deriving DecidableEq, Repr

namespace Node

/-- The identifier of a playbook file. -/
def playbookId (file : Text) : Text := "playbook/" ++ Location.base file

/-- The identifier of a task file of a role. -/
def taskId (role file : Text) : Text := "role/" ++ role ++ "/" ++ Location.base file

/-- The node of a playbook. -/
def playbook (location : Text) : Node :=
  { id := playbookId location
    label := playbookId location
    kind := .playbook
    file := location
    look := .playbook }

/-- The node of a task file; its label keeps the file name as the caller wrote it. -/
def task (role file : Text) : Node :=
  { id := taskId role file
    label := "role/" ++ role ++ "/" ++ Text.dropLeading "./" file
    kind := .task
    role := role
    file := file
    look := .task }

end Node

end RoleGraph
