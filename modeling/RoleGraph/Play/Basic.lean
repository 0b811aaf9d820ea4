import RoleGraph.Scope

/-!
# Playbooks

A playbook is a list of plays; a play has a name, the roles it runs and its variables.
-/

namespace RoleGraph

/-- One play of a playbook. -/
structure Play where
  name : Text := []
  roles : List Text := []
  vars : Scope := {}

/-- The name of a play, or its position when it has none. -/
def Play.displayName (p : Play) (index : Nat) : Text :=
  if p.name.isEmpty then Text.ofNat index else p.name

/-- What is wrong with an entry of a list of roles. -/
inductive RoleFault where
  /-- The entry is neither a name nor a mapping. -/
  | unsupported (line : Nat)
  /-- The entry names no role. -/
  | unnamed (line : Nat)
  deriving DecidableEq, Repr

/-- The wording of a faulty role entry. -/
def RoleFault.message : RoleFault → Text
  | .unsupported line => "line " ++ Text.ofNat line ++ ": unsupported role entry"
  | .unnamed line => "line " ++ Text.ofNat line ++ ": role entry without a name"

end RoleGraph
