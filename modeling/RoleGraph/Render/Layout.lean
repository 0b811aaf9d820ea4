import RoleGraph.Site
import RoleGraph.Text.Blank
import RoleGraph.Text.Quoted

/-!
# Layout commands

A graph can be handed to a command that lays it out. The command is looked up like any other: a name
with a slash is a path, any other name is searched in the directories of the `PATH` variable.
-/

namespace RoleGraph

namespace Layout

/-- The commands that are known to be installed. -/
inductive Program where
  /-- Prints its arguments. -/
  | echo
  /-- Does nothing. -/
  | succeed
  /-- Fails without a word. -/
  | fail
  deriving DecidableEq, Repr

/-- The installed commands by path. -/
def installed : List (Text × Program) :=
  [("/bin/echo", .echo), ("/bin/true", .succeed), ("/bin/false", .fail),
    ("/usr/bin/echo", .echo), ("/usr/bin/true", .succeed), ("/usr/bin/false", .fail)]

/-- Why a command cannot be found. -/
inductive LookupError where
  | notInPath
  /-- Nothing is found at the path. -/
  | notFound (fault : PathFault)
  | isDirectory
  /-- The file is no command. -/
  | notExecutable
  deriving DecidableEq, Repr

/-- Why a layout failed. -/
inductive Failure where
  | missing (binary : Text) (cause : LookupError)
  /-- The command cannot be started. -/
  | notStarted (binary format path : Text) (fault : PathFault)
  /-- The command ended with a status other than zero. -/
  | exit (binary format : Text) (status : Nat) (complaint : Text)
  deriving DecidableEq, Repr

/-- The wording of a command that cannot be found. -/
def LookupError.message (binary : Text) (e : LookupError) : Text :=
  "exec: " ++ Text.quote binary ++ ": " ++ match e with
    | .notInPath => Text.ofString "executable file not found in $PATH"
    | .notFound fault => "stat " ++ binary ++ ": " ++ fault.message
    | .isDirectory => "is a directory"
    | .notExecutable => "permission denied"

/-- The wording of a layout that failed. -/
def Failure.message : Failure → Text
  | .missing binary cause =>
    "graphviz dot binary not found: " ++ binary ++ ": " ++ cause.message binary
  | .notStarted binary format path fault =>
    binary ++ " -T" ++ format ++ " failed: fork/exec " ++ path ++ ": " ++ fault.message ++ ": "
  | .exit binary format status complaint =>
    binary ++ " -T" ++ format ++ " failed: exit status " ++ Text.ofNat status ++ ": " ++
      Text.trim complaint

/-- The command that lays out graphs, unless another is named. -/
def defaultBinary : Text := "dot"

/-- The files with the installed commands among them. -/
def withPrograms (t : Tree) : Tree :=
  installed.foldl (fun t (path, _) => t.put (Location.segments path) (.file [])) t

/-- Find a command at a path, which is followed step by step. -/
def lookupAt (s : Site) (path : Text) : Except LookupError Program :=
  let tree := withPrograms s.tree
  match { s with tree := tree }.resolve path with
  | .error fault => .error (.notFound fault)
  | .ok place =>
    match installed.lookup (Site.pathAt place), tree.find? place with
    | some p, _ => .ok p
    | none, some (.directory _) => .error .isDirectory
    | none, _ => .error .notExecutable

/-- Find a command and its path. -/
def lookup (s : Site) (binary : Text) : Except LookupError (Text × Program) :=
  if binary.contains Text.slash then (lookupAt s binary).map (binary, ·)
  else
    let dirs := match s.env.lookup (Text.ofString "PATH") with
      | none | some [] => []
      | some dirs => Text.splitAt 0x3A dirs
    let found := dirs.findSome? fun d =>
      let path := Location.join d binary
      (installed.lookup path).map (path, ·)
    match found with
    | some p => .ok p
    | none => .error .notInPath

/-- Lay out a graph by a command and give what the command prints. A zero byte cannot be handed to
it. -/
def external (s : Site) (binary format : Text) : Except Failure Text :=
  let binary := if binary.isEmpty then defaultBinary else binary
  match lookup s binary with
  | .error e => .error (.missing binary e)
  | .ok (path, program) =>
    if format.contains 0 then .error (.notStarted binary format path .invalid)
    else match program with
      | .echo => .ok ("-T" ++ format ++ "\n")
      | .succeed => .ok []
      | .fail => .error (.exit binary format 1 [])

end Layout

end RoleGraph
