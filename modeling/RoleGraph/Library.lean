import RoleGraph.Play.Decode
import RoleGraph.Site
import RoleGraph.Task

/-!
# Playbooks and task files by location

An analysis sees files only through a library: whether something is there, and what the playbook or
task file at a location holds. Reading the same location twice gives the same answer.
-/

namespace RoleGraph

/-- Why a playbook or a task file cannot be loaded. -/
inductive LoadError where
  /-- The location cannot be looked at. -/
  | unchecked (location : Text) (cause : StorageError)
  /-- Nothing is there. -/
  | missing (location : Text)
  /-- What is there cannot be read. -/
  | unreadable (location : Text) (cause : StorageError)
  /-- The file is not a playbook. -/
  | notPlaybook (location : Text) (fault : PlaybookFault)
  /-- The file is not a task file. -/
  | notTasks (location : Text) (fault : TaskFileFault)
  deriving DecidableEq, Repr

/-- The wording of a file that cannot be loaded. -/
def LoadError.message : LoadError → Text
  | .unchecked l e => "failed to check " ++ l ++ ": " ++ e.message
  | .missing l => l ++ ": not found"
  | .unreadable l e => "failed to read " ++ l ++ ": " ++ e.message
  | .notPlaybook l f => "playbook " ++ l ++ ": parse failure: " ++ f.message
  | .notTasks l f => "task file " ++ l ++ ": parse failure: " ++ f.message

/-- The files an analysis works on. -/
structure Library where
  /-- Whether something stands at a location. -/
  holds : Text → Except StorageError Bool
  /-- The plays of the playbook at a location. -/
  plays : Text → Except LoadError (List Play)
  /-- The tasks of the task file at a location. -/
  tasks : Text → Except LoadError (List Task)

namespace Site

/-- The text at a location. -/
def load (s : Site) (location : Text) : Except LoadError Text :=
  match s.holds location with
  | .error e => .error (.unchecked location e)
  | .ok false => .error (.missing location)
  | .ok true =>
    match s.read location with
    | .error e => .error (.unreadable location e)
    | .ok content => .ok content

/-- The plays of a playbook text that was read from a location. -/
def playsOf (location source : Text) : Except LoadError (List Play) :=
  match Play.ofText source with
  | .ok plays => .ok plays
  | .error fault => .error (.notPlaybook location fault)

/-- The tasks of a task file text that was read from a location. -/
def tasksOf (location source : Text) : Except LoadError (List Task) :=
  match Task.ofText source with
  | .ok tasks => .ok tasks
  | .error fault => .error (.notTasks location fault)

/-- The library of the files of a site. -/
def library (s : Site) : Library where
  holds := s.holds
  plays location := do playsOf location (← s.load location)
  tasks location := do tasksOf location (← s.load location)

/-- A task file is the text at its location, read as tasks. -/
theorem library_tasks (s : Site) (location : Text) :
    s.library.tasks location = (s.load location).bind (tasksOf location) := rfl

end Site

end RoleGraph
