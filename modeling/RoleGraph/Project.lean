import RoleGraph.Site
import RoleGraph.Text.Blank

/-!
# Projects

The project that a playbook or directory belongs to. Its root is the nearest directory, going up
from the target, that holds a configuration file, a directory of roles or a repository. Its name
comes from the address of the repository's `origin` remote, or else from the root.
-/

namespace RoleGraph

/-- What made a directory the root of a project. -/
inductive ProjectType where
  | ansible
  | git
  | unknown
  deriving DecidableEq, Repr

/-- The written name of a project type. -/
def ProjectType.name : ProjectType → Text
  | .ansible => "ansible"
  | .git => "git"
  | .unknown => "unknown"

/-- A detected project. -/
structure Project where
  root : Text
  type : ProjectType
  name : Text
  /-- The path of the target from the root. -/
  relative : Text
  /-- The directory of roles, if the root has one. -/
  rolesDir : Option Text
  /-- The address of the `origin` remote; empty when there is none. -/
  origin : Text
  deriving DecidableEq, Repr

namespace Project

/-- The header of the section about the `origin` remote. -/
def originHeader : Text := "[remote \"origin\"]"

/-- The value of a line that sets the address of a remote. -/
def addressOf? (line : Text) : Option Text :=
  match Text.cut? 0x3D line with
  | some (key, value) => if Text.trim key = Text.ofString "url" then some (Text.trim value) else none
  | none => none

/-- The first address that trimmed lines set in an `origin` section; `inside` means that the lines
before end in such a section. -/
def originIn (inside : Bool) : List Text → Text
  | [] => []
  | line :: rest =>
    if line.head? = some 0x5B then originIn (line = originHeader) rest
    else if inside then
      match addressOf? line with
      | some address => address
      | none => originIn inside rest
    else originIn inside rest

/-- Lines of this many bytes or more end the reading of a repository configuration. -/
def lineLimit : Nat := 65536

/-- The trimmed lines of a repository configuration up to the first that is too long. -/
def configLines (content : Text) : List Text :=
  ((Text.splitAt 0x0A content).takeWhile fun line => line.length < lineLimit).map Text.trim

/-- The address of the `origin` remote in a repository configuration. -/
def originOf (content : Text) : Text := originIn false (configLines content)

/-- The part of an address after its last slash or colon, if it is not empty. -/
def lastPart? (address : Text) : Option Text :=
  let isMark (b : UInt8) : Bool := b == 0x2F || b == 0x3A
  let part := (address.reverse.takeWhile fun b => !isMark b).reverse
  if part.isEmpty || !address.any isMark then none else some part

/-- The name of a project. -/
def nameOf (root origin : Text) : Text :=
  let address := Text.dropTrailing ".git" (Text.dropTrailing "/" origin)
  (lastPart? address).getD (Location.base root)

/-- The name of the roles directory of a project. -/
def rolesName : Text := "roles"

/-- The place of the repository configuration below the root of a project. -/
def gitConfig : List Text := [".git", "config"]

/-- The type of the project whose root is a directory, if it is one. -/
def typeAt? (s : Site) (place : List Text) : Option ProjectType :=
  let child? (name : Text) : Option Tree := s.tree.find? (place ++ [name])
  if (child? "ansible.cfg").isSome then some .ansible
  else if (child? rolesName).any Tree.isDirectory then some .ansible
  else if (child? ".git").isSome then some .git
  else none

/-- The place of a directory and those of all directories above it, the nearest first. -/
def ancestors (place : List Text) : List (List Text) :=
  (List.range (place.length + 1)).reverse.map place.take

/-- The nearest project root at or above a place. -/
def rootAbove? (s : Site) (place : List Text) : Option (List Text × ProjectType) :=
  (ancestors place).findSome? fun p => (typeAt? s p).map (p, ·)

/-- Why no project can be detected. -/
inductive Failure where
  /-- The target does not exist. -/
  | noTarget (path : Text) (fault : PathFault)
  deriving DecidableEq, Repr

/-- The wording of a target that does not exist. -/
def Failure.message : Failure → Text
  | .noTarget path fault => "stat " ++ path ++ ": " ++ fault.message

/-- The project of a target. -/
def detect (s : Site) (target : Text) : Except Failure Project :=
  let path := Location.absolute s.cwd target
  let place := Location.segments path
  match s.tree.find? place with
  | none => .error (.noTarget path (s.faultAt path))
  | some t =>
    let start := if t.isDirectory then place else place.dropLast
    let (rootPlace, type) := (rootAbove? s start).getD (start, .unknown)
    let root := Site.pathAt rootPlace
    let origin := match s.tree.find? (rootPlace ++ gitConfig) with
      | some (.file content) => originOf content
      | _ => []
    .ok
      { root := root
        type := type
        name := nameOf root origin
        relative := Location.relative root path
        rolesDir :=
          if (s.tree.find? (rootPlace ++ [rolesName])).any Tree.isDirectory
          then some (Site.pathAt (rootPlace ++ [rolesName])) else none
        origin := origin }

end Project

end RoleGraph
