import RoleGraph.Play.Basic
import RoleGraph.Yaml.Fields

/-!
# Reading playbooks

The plays of a document. Only the name, the roles and the variables of a play are looked at. A role
entry is a bare name or a mapping with a `role` or a `name`; null entries are dropped.
-/

namespace RoleGraph

namespace Play

open Yaml (Decode FieldReader decodeText readStructure)
open Yaml.Decode

/-- The two ways a mapping names a role. -/
structure RoleEntry where
  role : Text := []
  name : Text := []

/-- The name of a role entry: the `role` field, else the `name` field. -/
def RoleEntry.label (e : RoleEntry) : Text := if e.role.isEmpty then e.name else e.role

/-- The fields of a role entry. -/
def roleFields : FieldReader RoleFault RoleEntry where
  names := ["role", "name"]
  set key underAlias node entry := do
    match ← decodeText underAlias node with
    | none => return entry
    | some t =>
      if key = Text.ofString "role" then return { entry with role := t }
      else return { entry with name := t }

/-- A role name that must not be empty. -/
def namedRole (line : Nat) (name : Text) : Decode RoleFault (Option Text) :=
  if name.isEmpty then reject (.unnamed line) else pure (some name)

/-- One entry of a list of roles; null gives none. -/
def decodeRole (underAlias : Bool) : Yaml.Node → Decode RoleFault (Option Text)
  | .alias _ none => invalid
  | .alias _ (some n) => do count underAlias; decodeRole true n
  | .scalar line tag text => do
    count underAlias
    if tag == Yaml.Tag.null then
      let _ ← Yaml.scalarOf tag text
      return none
    else namedRole line text
  | .sequence line tag _ => do
    count underAlias
    if tag == Yaml.Tag.null then mistake none else reject (.unsupported line)
  | .mapping line tag entries => do
    count underAlias
    if tag == Yaml.Tag.null then
      let e ← readStructure { roleFields with names := ["name"] } underAlias {} entries
      return some e.label
    else
      match ← apart (do count false; readStructure roleFields false {} entries) with
      | some e => namedRole line e.label
      | none => return none

/-- The entries of a list of roles. -/
def decodeRoleItems (underAlias : Bool) : List Yaml.Node → Decode RoleFault (List Text)
  | [] => pure []
  | n :: rest => do
    let r ← decodeRole underAlias n
    let rs ← decodeRoleItems underAlias rest
    return r.toList ++ rs

/-- A list of roles; null is an empty list. -/
def decodeRoles (underAlias : Bool) : Yaml.Node → Decode RoleFault (List Text)
  | .alias _ none => invalid
  | .alias _ (some n) => do count underAlias; decodeRoles true n
  | .scalar _ tag text => do
    count underAlias
    match ← Yaml.scalarOf tag text with
    | .null => return []
    | _ => mistake []
  | .sequence _ _ items => do count underAlias; decodeRoleItems underAlias items
  | .mapping _ _ _ => do count underAlias; mistake []

/-- The variables of a play; null is an empty mapping. -/
def decodeVars (underAlias : Bool) : Yaml.Node → Decode RoleFault Scope
  | .alias _ none => invalid
  | .alias _ (some n) => do count underAlias; decodeVars true n
  | .scalar _ tag text => do
    count underAlias
    match ← Yaml.scalarOf tag text with
    | .null => return {}
    | _ => mistake {}
  | .sequence _ _ _ => do count underAlias; mistake {}
  | .mapping _ _ entries => do
    count underAlias
    return ⟨← Yaml.readRecord underAlias entries⟩

/-- The fields of a play. -/
def playFields : FieldReader RoleFault Play where
  names := ["name", "roles", "vars"]
  set key underAlias node play := do
    if key = Text.ofString "name" then
      match ← decodeText underAlias node with
      | some t => return { play with name := t }
      | none => return play
    else if key = Text.ofString "roles" then
      return { play with roles := ← decodeRoles underAlias node }
    else return { play with vars := ← decodeVars underAlias node }

/-- One play; null is an empty play, and a mapping must not claim to be null. -/
def decode (underAlias : Bool) : Yaml.Node → Decode RoleFault Play
  | .alias _ none => invalid
  | .alias _ (some n) => do count underAlias; decode true n
  | .scalar _ tag text => do
    count underAlias
    match ← Yaml.scalarOf tag text with
    | .null => return {}
    | _ => mistake {}
  | .sequence _ _ _ => do count underAlias; mistake {}
  | .mapping _ tag entries => do
    count underAlias
    if tag == Yaml.Tag.null then mistake {} else readStructure playFields underAlias {} entries

/-- The plays of a document. -/
def decodeAll : Yaml.Node → Decode RoleFault (List Play)
  | .scalar _ tag text => do
    count false
    match ← Yaml.scalarOf tag text with
    | .null => return []
    | _ => mistake []
  | .sequence _ _ items => do count false; items.mapM (decode false)
  | _ => mistake []

end Play

/-- Why a text is not a playbook. -/
inductive PlaybookFault where
  /-- It is not a document of the right shape. -/
  | invalid
  | role (fault : RoleFault)
  deriving DecidableEq, Repr

/-- The wording of a text that is not a playbook. -/
def PlaybookFault.message : PlaybookFault → Text
  | .invalid => "yaml"
  | .role fault => fault.message

/-- The plays of a playbook text. -/
def Play.ofText (source : Text) : Except PlaybookFault (List Play) :=
  match Yaml.Document.ofText source with
  | .malformed => .error .invalid
  | .missing => .ok []
  | .root n =>
    match (Play.decodeAll n).result with
    | .ok plays => .ok plays
    | .error .invalid => .error .invalid
    | .error (.rejected fault) => .error (.role fault)

end RoleGraph
