import RoleGraph.Hash.Highway
import RoleGraph.Text.Blank
import RoleGraph.Text.Quoted
import RoleGraph.Yaml.Block

/-!
# Play variables

The variables of a play, from which dynamic includes are resolved. A variable without a value, or
with an empty one, counts as absent. The fingerprint is a keyed hash of the written variables, so
scopes with the same variables have the same fingerprint.
-/

namespace RoleGraph

/-- The variables of a play, in byte order of their names. -/
structure Scope where
  entries : List (Text × Yaml.Value) := []
  deriving DecidableEq

namespace Scope

/-- The text of a variable; null and empty values count as absent. -/
def lookup (s : Scope) (name : Text) : Option Text :=
  match Yaml.getEntry? name s.entries with
  | some (.scalar .null) | none => none
  | some v =>
    let text := v.display .braces
    if text.isEmpty then none else some text

/-- The names of the variables in byte order. -/
def names (s : Scope) : List Text := Text.sort (s.entries.map (·.1))

/-- The variables as `{a: 1, b: x}`. -/
def display (s : Scope) : Text := (Yaml.Value.record s.entries).display .braces

/-- The written form that the fingerprint is taken of. -/
def written (s : Scope) : Text :=
  Yaml.Block.document (Yaml.Block.ordered (Yaml.Block.ofRecord s.entries))

/-- The key of the fingerprint. -/
def hashKey : Text := "playgraph-scope-fingerprint-key!"

/-- The keyed hash of a text. -/
def hashOf (t : Text) : UInt64 := Highway.hash hashKey t

/-- The fingerprint of the variables; a play without variables has fingerprint zero. -/
def fingerprint (s : Scope) : UInt64 := if s.entries.isEmpty then 0 else hashOf s.written

end Scope

/-- Why an include cannot be resolved. -/
inductive ResolveError where
  /-- The expression has no second word. -/
  | malformed (value : Text)
  /-- The play does not give the variable a value. -/
  | missing (name : Text) (scope : Scope)

/-- The wording of an include that cannot be resolved. -/
def ResolveError.message : ResolveError → Text
  | .malformed value => "parse failure: malformed include expression " ++ Text.quote value
  | .missing name scope =>
    "missing variable: " ++ name ++ " is missing from play vars - " ++ scope.display

/-- The mark of a dynamic include. -/
def templateMark : Text := "\x7b\x7b"

/-- The file that an include names. A static include is taken as it is; a dynamic one is the value
of the variable that is its second word. -/
def Scope.resolve (s : Scope) (value : Text) : Except ResolveError Text :=
  if !Text.has templateMark value then .ok value
  else match Text.words value with
    | _ :: name :: _ =>
      match s.lookup name with
      | some text => .ok text
      | none => .error (.missing name s)
    | _ => .error (.malformed value)

end RoleGraph
