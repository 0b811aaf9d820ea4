import RoleGraph.Analysis.Scan
import RoleGraph.Graph.Basic
import RoleGraph.Library
import RoleGraph.Log

/-!
# The call graph of playbooks

A playbook calls the main task file of each role it runs, and a task file calls the files it
includes. The analysis follows the includes depth first. A file that was followed to its end under
some variables is not followed again under the same ones, but every call adds an edge.

A chain of includes must not return to a file that is on it, and must not be longer than a limit. A
failure stops the analysis; what was added to the graph before stays.
-/

namespace RoleGraph

namespace Analysis

/-- What an analysis is asked to do. -/
structure Options where
  /-- Where the roles are; an absolute path or an address. -/
  rolesDir : Text
  /-- The keys under which a task includes a file. -/
  includeKeys : List Text := Task.includeKeys
  /-- Follow all roles of a play instead of the first one. -/
  allRoles : Bool := false
  /-- The greatest length of a chain of includes. -/
  maxDepth : Nat := 64

/-- Entries of the memo are compared part by part. -/
instance lawfulBEqEntry : LawfulBEq (Text × UInt64) := inferInstance

/-- What an analysis has found so far. -/
structure State where
  graph : Graph := {}
  /-- The task files followed to their end, each with the fingerprint of the variables. -/
  expanded : List (Text × UInt64) := []
  log : List Log.Record := []

/-- Why a task file cannot be followed. -/
inductive ExpandError where
  /-- The chain of includes returns to a file that is on it. -/
  | cycle (role : Text) (chain : List Text)
  /-- The chain of includes is longer than the limit. -/
  | tooDeep (role location : Text) (limit : Nat)
  /-- The task file cannot be loaded. -/
  | load (role : Text) (cause : LoadError)
  /-- A task of the file is faulty. -/
  | task (role location : Text) (index : Nat) (fault : TaskFault)
  /-- An include of the file cannot be resolved. -/
  | unresolved (role location : Text) (cause : ResolveError)
  /-- The graph refused an edge. -/
  | edge (cause : Graph.EdgeError)

/-- The wording of a task file that cannot be followed. -/
def ExpandError.message : ExpandError → Text
  | .cycle role chain =>
    "role " ++ role ++ ": include cycle detected: " ++ Text.joinWith " -> " chain
  | .tooDeep role location limit =>
    "role " ++ role ++ ": " ++ location ++ ": maximum include depth exceeded (" ++
      Text.ofNat limit ++ ")"
  | .load role cause => "role " ++ role ++ ": " ++ cause.message
  | .task role location index fault =>
    "role " ++ role ++ ": " ++ location ++ " task[" ++ Text.ofNat index ++ "]: parse failure: " ++
      fault.message
  | .unresolved role location cause => "role " ++ role ++ ": " ++ location ++ ": " ++ cause.message
  | .edge cause => cause.message

/-- Why a role cannot be followed. -/
inductive RoleError where
  /-- The task directory of the role cannot be looked at. -/
  | unchecked (role dir : Text) (cause : StorageError)
  /-- The role has no task directory. -/
  | noTasks (role dir : Text)
  | expand (cause : ExpandError)

/-- The wording of a role that cannot be followed. -/
def RoleError.message : RoleError → Text
  | .unchecked role dir cause =>
    "role " ++ role ++ ": failed to check " ++ dir ++ ": " ++ cause.message
  | .noTasks role dir => "role " ++ role ++ ": " ++ dir ++ " not found"
  | .expand cause => cause.message

/-- Why a playbook cannot be followed. -/
inductive PlaybookError where
  /-- The playbook cannot be loaded. -/
  | load (cause : LoadError)
  /-- A role of a play cannot be followed. -/
  | play (root name : Text) (cause : RoleError)

/-- The wording of a playbook that cannot be followed. -/
def PlaybookError.message : PlaybookError → Text
  | .load cause => cause.message
  | .play root name cause => root ++ " play " ++ name ++ ": " ++ cause.message

/-- A step of an analysis. What was found before a failure stays. -/
abbrev Step (ε : Type) := ExceptT ε (StateM State)

section Steps

variable {ε : Type}

/-- Write a record to the log. -/
def note (level : Log.Level) (message : Text) (attrs : List (Text × Log.Value)) : Step ε Unit :=
  modify fun s => { s with log := s.log ++ [⟨level, message, attrs⟩] }

/-- Add a node, unless its identifier is known. -/
def addNode (n : Node) : Step ε Unit := modify fun s => { s with graph := s.graph.addNode n }

/-- Add the edge of a call. -/
def addCall (wrap : Graph.EdgeError → ε) (source target : Node) : Step ε Unit := do
  match (← get).graph.addEdge (some source) (some target) with
  | .ok g => modify fun s => { s with graph := g }
  | .error e => throw (wrap e)

/-- Run a step whose failures mean something else here. -/
def wrapping {ε' α : Type} (wrap : ε' → ε) (step : Step ε' α) : Step ε α :=
  ExceptT.mk do
    match ← step.run with
    | .ok a => pure (.ok a)
    | .error e => pure (.error (wrap e))

end Steps

/-- The location of a task file below the task directory of its role. -/
def taskLocation (dir file : Text) : Text := Location.append dir (Location.clean file)

/-- Follow includes one after the other: resolve each, follow the file by `child` and add the call
from `node`. -/
def followAll (role location : Text) (scope : Scope) (node : Node)
    (child : Text → Step ExpandError Node) : List Text → Step ExpandError Unit
  | [] => pure ()
  | target :: rest => do
    note .debug "include detected" [("path", .text location), ("include", .text target)]
    match scope.resolve target with
    | .error e => throw (.unresolved role location e)
    | .ok file =>
      if file ≠ target then
        note .info "dynamic include resolved" [("include", .text target), ("file", .text file)]
      let callee ← child file
      addNode callee
      addNode node
      addCall .edge node callee
      followAll role location scope node child rest

/-- Follow a task file. `trail` holds the files on the way to this one, the first one first, and
`room` is how many more files the chain may have. The node of the file is returned; it is the caller
who adds it to the graph, unless the file has calls of its own. -/
def expand (lib : Library) (opts : Options) (role dir : Text) (scope : Scope) :
    (room : Nat) → (trail : List Text) → (file : Text) → Step ExpandError Node
  | 0, trail, file =>
    let location := taskLocation dir file
    if location ∈ trail then throw (.cycle role (trail ++ [location]))
    else throw (.tooDeep role location opts.maxDepth)
  | room + 1, trail, file => do
    let location := taskLocation dir file
    if location ∈ trail then throw (.cycle role (trail ++ [location]))
    let node := (← get).graph.stored (.task role file)
    let key := (location, scope.fingerprint)
    if key ∈ (← get).expanded then
      note .debug "task file already expanded" [("path", .text location), ("id", .text node.id)]
      return node
    note .info "analyzing task file" [("path", .text location)]
    match lib.tasks location with
    | .error e => throw (.load role e)
    | .ok tasks =>
      let found := Task.scan opts.includeKeys tasks
      followAll role location scope node
        (expand lib opts role dir scope room (trail ++ [location])) found.targets
      match found.fault with
      | some f => throw (.task role location f.index f.fault)
      | none =>
        modify fun s => { s with expanded := key :: s.expanded }
        return node

/-- The directory of the task files of a role. -/
def tasksDir (opts : Options) (role : Text) : Text :=
  Location.append (Location.append opts.rolesDir role) "tasks"

/-- The task file that a role starts with. -/
def mainFile : Text := "main.yml"

/-- Follow a role that the node `caller` runs. -/
def followRole (lib : Library) (opts : Options) (caller : Node) (scope : Scope) (role : Text) :
    Step RoleError Unit := do
  note .info "analyzing role" [("role", .text role)]
  if !scope.entries.isEmpty then
    note .info "included vars" [("role", .text role), ("vars", .text scope.display)]
  let dir := tasksDir opts role
  match lib.holds dir with
  | .error e => throw (.unchecked role dir e)
  | .ok false => throw (.noTasks role dir)
  | .ok true =>
    let main ← wrapping .expand (expand lib opts role dir scope opts.maxDepth [] mainFile)
    addNode main
    addCall (fun e => .expand (.edge e)) caller main

/-- The roles of a play that are followed. -/
def rolesOf (opts : Options) (play : Play) : List Text :=
  if opts.allRoles then play.roles else play.roles.take 1

/-- Follow a play that the node `root` stands for. -/
def followPlay (lib : Library) (opts : Options) (root : Node) (index : Nat) (play : Play) :
    Step PlaybookError Unit := do
  let name := play.displayName index
  note .info "analyzing play" [("name", .text name)]
  match play.roles with
  | first :: _ :: _ =>
    if !opts.allRoles then
      note .warn "only the first role of a play is analyzed"
        [("play", .text name), ("role", .text first),
          ("ignored", .int ((play.roles.length - 1 : Nat) : Int))]
  | _ => pure ()
  (rolesOf opts play).forM fun role =>
    wrapping (.play root.id name) (followRole lib opts root play.vars role)

/-- Follow plays in order. -/
def followPlays (lib : Library) (opts : Options) (root : Node) :
    (index : Nat) → List Play → Step PlaybookError Unit
  | _, [] => pure ()
  | index, play :: rest => do
    followPlay lib opts root index play
    followPlays lib opts root (index + 1) rest

/-- Follow the playbook at a location that is absolute or an address. -/
def followPlaybook (lib : Library) (opts : Options) (location : Text) :
    Step PlaybookError Unit := do
  note .info "analyzing playbook" [("path", .text location)]
  match lib.plays location with
  | .error e => throw (.load e)
  | .ok plays =>
    let node := Node.playbook location
    match (← get).graph.find? node.id with
    | some known =>
      if known.file ≠ location then
        note .warn "playbooks with the same file name share one node"
          [("id", .text node.id), ("path", .text location), ("shared", .text known.file)]
    | none => pure ()
    addNode node
    let root := (← get).graph.stored node
    note .info "created root node" [("id", .text root.id)]
    followPlays lib opts root 0 plays

end Analysis

end RoleGraph
