import RoleGraph.Tree

/-!
# What a run sees of the machine

The file tree, the working directory and the environment of a run, and the operations on locations
that read and change them. Local files are read and written; the `mem` scheme is known but holds
nothing; every other scheme is refused.
-/

namespace RoleGraph

/-- The files, the working directory and the environment. -/
structure Site where
  tree : Tree
  cwd : Text := "/"
  env : List (Text × Text) := []

/-- Why nothing is found at a path, or created there. -/
inductive PathFault where
  | missing
  /-- A file stands in the way. -/
  | blocked
  /-- A name, or the whole path, is too long. -/
  | tooLong
  /-- There is a zero byte in the path. -/
  | invalid
  deriving DecidableEq, Repr

/-- The wording of a fault. -/
def PathFault.message : PathFault → Text
  | .missing => "no such file or directory"
  | .blocked => "not a directory"
  | .tooLong => "file name too long"
  | .invalid => "invalid argument"

/-- Why a location cannot be used. -/
inductive StorageError where
  /-- Nothing is known about the scheme. -/
  | unknownScheme (scheme : Text)
  /-- A directory was read as a file. -/
  | readDirectory (path : Text)
  /-- The empty location was to be walked. -/
  | emptyRoot
  /-- The location to be walked does not exist. -/
  | noRoot (path : Text) (fault : PathFault)
  /-- The address to be walked holds nothing. -/
  | noAddress (location : Text)
  /-- A directory with entries stands where a file is to be written. -/
  | writeDirectory (path : Text)
  /-- The parent of a file to be written is itself a file. -/
  | parentIsFile (path : Text) (parent : Text)
  /-- A directory on the way to a file to be written cannot be created. -/
  | noDirectory (path : Text) (directory : Text) (fault : PathFault)
  /-- The file to be written cannot be opened. -/
  | noFile (path : Text) (fault : PathFault)
  deriving DecidableEq, Repr

/-- The wording of a location that cannot be used. -/
def StorageError.message : StorageError → Text
  | .unknownScheme s => "failed to lookup storage provider " ++ s
  | .readDirectory p => "read " ++ p ++ ": is a directory"
  | .emptyRoot => "URL was empty"
  | .noRoot p fault =>
    "failed to *file.manager.List file://localhost" ++ p ++ ": unable to open " ++ p ++ ": open " ++
      p ++ ": " ++ fault.message
  | .noAddress l => l ++ ": not found"
  | .writeDirectory p => "unable to open file: " ++ p ++ " : open " ++ p ++ ": is a directory"
  | .parentIsFile p parent =>
    "unable to create parent for " ++ p ++ ": mkdir " ++ parent ++ "/: file exists"
  | .noDirectory p directory fault =>
    "unable to create parent for " ++ p ++ ": mkdir " ++ directory ++ ": " ++ fault.message
  | .noFile p fault => "unable to open file: " ++ p ++ " : open " ++ p ++ ": " ++ fault.message

namespace Site

/-- The absolute path of a local location. -/
def pathOf (s : Site) (location : Text) : Text := Location.absolute s.cwd (Location.path location)

/-- The absolute path written from its place in the tree. -/
def pathAt (place : List Text) : Text := Text.slash :: Text.joinWith [Text.slash] place

/-- What stands at an absolute path. -/
def find? (s : Site) (path : Text) : Option Tree := s.tree.find? (Location.segments path)

/-- Whether an absolute path is a directory. -/
def isDirectory (s : Site) (path : Text) : Bool := (s.find? path).any Tree.isDirectory

/-- The longest name of a file. -/
def nameLimit : Nat := 255

/-- Paths of this many bytes or more are too long. -/
def pathLimit : Nat := 4096

/-- The place reached from another by single steps, each of which has to start in a directory. -/
def follow (t : Tree) : List Text → List Text → Except PathFault (List Text)
  | place, [] => .ok place
  | place, step :: rest =>
    match t.find? place with
    | none => .error .missing
    | some (.file _) => .error .blocked
    | some (.directory cs) =>
      if step.isEmpty || step == Location.here then follow t place rest
      else if step == Location.up then follow t place.dropLast rest
      else if nameLimit < step.length then .error .tooLong
      else if (cs.lookup step).isSome then follow t (place ++ [step]) rest
      else .error .missing

/-- The fault that a path has whatever the files are. -/
def wrongPath? (path : Text) : Option PathFault :=
  if path.contains 0 then some .invalid
  else if pathLimit ≤ path.length then some .tooLong
  else none

/-- The place that a path names, followed step by step. -/
def resolve (s : Site) (path : Text) : Except PathFault (List Text) :=
  match wrongPath? path with
  | some fault => .error fault
  | none =>
    if path.isEmpty then .error .missing
    else
      let start := if Location.isRooted path then [] else Location.segments s.cwd
      follow s.tree start (Text.splitAt Text.slash path)

/-- Why nothing is found at a path. -/
def faultAt (s : Site) (path : Text) : PathFault :=
  match s.resolve path with
  | .error fault => fault
  | .ok _ => .missing

/-- The content of a file named by a path that is followed step by step. -/
def contentAt? (s : Site) (path : Text) : Option Text :=
  match s.resolve path with
  | .error _ => none
  | .ok place =>
    match s.tree.find? place with
    | some (.file content) => some content
    | _ => none

/-- The scheme whose locations hold nothing. -/
def memoryScheme : Text := "mem"

/-- Whether something stands at a location. -/
def holds (s : Site) (location : Text) : Except StorageError Bool :=
  let scheme := Location.scheme location
  if scheme = Location.localScheme then
    .ok (!location.isEmpty && (s.find? (s.pathOf location)).isSome)
  else if scheme = memoryScheme then .ok false
  else .error (.unknownScheme scheme)

/-- The content of a file that is there. -/
def read (s : Site) (location : Text) : Except StorageError Text :=
  let path := s.pathOf location
  match s.find? path with
  | some (.file content) => .ok content
  | _ => .error (.readDirectory path)

/-- Why nothing can be created at a place, whatever the files are. -/
def wrongPlace? (place : List Text) : Option PathFault :=
  match wrongPath? (pathAt place) with
  | some fault => some fault
  | none => if place.getLast?.any fun name => nameLimit < name.length then some .tooLong else none

/-- The first of the directories above a place that cannot be created, whatever the files are. -/
def wrongDirectory? (place : List Text) : Option (List Text × PathFault) :=
  ((List.range place.length).drop 1).findSome? fun n =>
    (wrongPlace? (place.take n)).map (place.take n, ·)

/-- The path of a directory above a place, as it is created: the one right above it with a slash. -/
def directoryPath (place directory : List Text) : Text :=
  if directory.length + 1 = place.length then pathAt directory ++ [Text.slash]
  else pathAt directory

/-- Why a file cannot be written at a place. -/
def writeError? (s : Site) (path : Text) (place : List Text) : Option StorageError :=
  match s.tree.obstacle? place with
  | some file =>
    if file.length + 1 = place.length then some (.parentIsFile path (pathAt file))
    else some (.noDirectory path (pathAt file) .blocked)
  | none =>
    match wrongDirectory? place with
    | some (directory, fault) => some (.noDirectory path (directoryPath place directory) fault)
    | none =>
      match wrongPlace? place, s.tree.find? place with
      | some fault, _ => some (.noFile path fault)
      | none, some (.directory (_ :: _)) => some (.writeDirectory path)
      | none, _ => none

/-- Write a file. Missing parents are created, and an existing file or empty directory gives way. The
empty location is the root. -/
def save (s : Site) (location content : Text) : Except StorageError Site :=
  let scheme := Location.scheme location
  if scheme = memoryScheme then .ok s
  else if scheme ≠ Location.localScheme then .error (.unknownScheme scheme)
  else
    let path := if location.isEmpty then [Text.slash] else s.pathOf location
    let place := Location.segments path
    match s.writeError? path place with
    | some e => .error e
    | none => .ok { s with tree := s.tree.put place (.file content) }

/-- The tree below a location that is to be walked. A file is walked as if it were a directory that
holds it. -/
def walkRoot (s : Site) (location : Text) : Except StorageError Tree :=
  if location.isEmpty then .error .emptyRoot
  else
    let scheme := Location.scheme location
    if scheme = Location.localScheme then
      let path := s.pathOf location
      match s.find? path with
      | some (.file content) => .ok (.directory [(Location.base path, .file content)])
      | some t => .ok t
      | none => .error (.noRoot path (s.faultAt path))
    else if scheme = memoryScheme then .error (.noAddress location)
    else .error (.unknownScheme scheme)

end Site

end RoleGraph
