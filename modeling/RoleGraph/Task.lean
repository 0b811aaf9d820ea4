import RoleGraph.Word
import RoleGraph.Yaml.Decode
import RoleGraph.Yaml.Display

/-!
# Tasks

A task is a record of a task file. It may wrap further tasks in the sections of a block, or include
another task file. A file is scanned from a work list: the tasks inside a block are added at its
end, so every task of one nesting level comes before those of the next.
-/

namespace RoleGraph

/-- A task: its keys and values in byte order of the keys. -/
structure Task where
  entries : List (Text × Yaml.Value)

/-- What is wrong with a list of tasks or a task. -/
inductive TaskFault where
  /-- A value of the named type stands where a list of tasks is expected. -/
  | notList (type : Text)
  /-- An item of the named type stands where a task is expected. -/
  | notRecord (index : Nat) (type : Text)
  /-- A section of a block is not a list of tasks. -/
  | badSection (name : Text) (fault : TaskFault)
  /-- The value of an include is neither a file name nor a record with one. -/
  | badInclude (key value : Text)
  deriving DecidableEq, Repr

/-- The wording of a faulty task. -/
def TaskFault.message : TaskFault → Text
  | .notList type => "expected a list of tasks, got " ++ type
  | .notRecord index type => "task[" ++ Text.ofNat index ++ "]: expected a mapping, got " ++ type
  | .badSection name fault => "invalid " ++ name ++ ": " ++ fault.message
  | .badInclude key value => "unsupported " ++ key ++ " value: " ++ value

/-- The name of the type of a value, as messages give it. -/
def valueType : Yaml.Value → Text
  | .scalar .null => "<nil>"
  | .scalar (.bool _) => "bool"
  | .scalar (.int n) => if n < Word.signedBound then Text.ofString "int" else "uint64"
  | .scalar (.float _) => "float64"
  | .scalar (.time _) => "time.Time"
  | .scalar (.str _) => "string"
  | .list _ => "[]interface \x7b\x7d"
  | .record _ => "map[string]interface \x7b\x7d"
  | .dict _ => "map[interface \x7b\x7d]interface \x7b\x7d"

namespace Task

/-- The tasks among the items of a list, counted from `index`. -/
def ofItems (index : Nat) : List Yaml.Value → Except TaskFault (List Task)
  | [] => .ok []
  | .record entries :: rest => do
    let tasks ← ofItems (index + 1) rest
    return ⟨entries⟩ :: tasks
  | v :: _ => .error (.notRecord index (valueType v))

/-- A value as a list of tasks. -/
def ofValue : Yaml.Value → Except TaskFault (List Task)
  | .list items => ofItems 0 items
  | v => .error (.notList (valueType v))

/-- The value under a key. -/
def get? (t : Task) (key : Text) : Option Yaml.Value := Yaml.getEntry? key t.entries

/-- Whether a task has a key. -/
def has (t : Task) (key : Text) : Bool := (t.get? key).isSome

/-- The section that makes a task a block. -/
def blockKey : Text := "block"

/-- The sections of a block in the order in which they are scanned. -/
def sections : List Text := [blockKey, "rescue", "always"]

/-- Whether a task is a block. -/
def isBlock (t : Task) : Bool := t.has blockKey

/-- The tasks of one section; a section that is absent or null has none. -/
def sectionTasks (t : Task) (name : Text) : Except TaskFault (List Task) :=
  match t.get? name with
  | none | some (.scalar .null) => .ok []
  | some v =>
    match ofValue v with
    | .ok tasks => .ok tasks
    | .error fault => .error (.badSection name fault)

/-- The tasks of some sections, in order. -/
def sectionsTasks (t : Task) : List Text → Except TaskFault (List Task)
  | [] => .ok []
  | name :: rest => do
    let tasks ← t.sectionTasks name
    let more ← t.sectionsTasks rest
    return tasks ++ more

/-- The tasks inside a block. -/
def block (t : Task) : Except TaskFault (List Task) := t.sectionsTasks sections

/-- The key of the file name in the long form of an include. -/
def fileKey : Text := "file"

/-- The file name in the value of an include. -/
def includeTarget? : Yaml.Value → Option Text
  | .scalar (.str t) => some t
  | .record entries =>
    match Yaml.getEntry? fileKey entries with
    | some (.scalar (.str t)) => some t
    | _ => none
  | _ => none

/-- The file that a task includes under the first of some keys that it has. -/
def included (t : Task) : List Text → Except TaskFault (Option Text)
  | [] => .ok none
  | key :: rest =>
    match t.get? key with
    | none => t.included rest
    | some v =>
      match includeTarget? v with
      | some target => .ok (some target)
      | none => .error (.badInclude key (v.display .brackets))

/-- The keys of an include, unless others are chosen. -/
def includeKeys : List Text := ["ansible.builtin.include_tasks", "include_tasks"]

end Task

/-- Why a text is not a task file. -/
inductive TaskFileFault where
  /-- It is not a document. -/
  | invalid
  | task (fault : TaskFault)
  deriving DecidableEq, Repr

/-- The wording of a text that is not a task file. -/
def TaskFileFault.message : TaskFileFault → Text
  | .invalid => "yaml"
  | .task fault => fault.message

/-- The tasks of a task file text; an empty document has none. -/
def Task.ofText (source : Text) : Except TaskFileFault (List Task) :=
  match Yaml.Document.ofText source with
  | .malformed => .error .invalid
  | .missing => .ok []
  | .root n =>
    match (Yaml.decodeValue false n : Yaml.Decode Empty Yaml.Value).result with
    | .error _ => .error .invalid
    | .ok (.scalar .null) => .ok []
    | .ok v =>
      match Task.ofValue v with
      | .ok tasks => .ok tasks
      | .error fault => .error (.task fault)

end RoleGraph
