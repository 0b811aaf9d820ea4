import RoleGraph.Text.Basic

/-!
# Outputs

A place where texts are printed, piece by piece. An output may refuse a piece, after having taken the
first bytes of it, and it names its fault then; what it does with a piece may depend on the pieces that
came before. Printing stops at the first fault.
-/

namespace RoleGraph

/-- An output, told by its answers to a piece that comes after others: how many bytes of the piece are
taken before which fault, or nothing when the whole piece is taken. -/
structure Output (ε : Type) where
  refusal : List Text → Text → Option (Nat × ε)

namespace Output

variable {ε : Type}

/-- An output that takes everything. -/
def unlimited : Output ε := ⟨fun _ _ => none⟩

/-- An output that takes nothing. -/
def closed (fault : ε) : Output ε := ⟨fun _ _ => some (0, fault)⟩

/-- Print pieces after others: the text that is taken, and the fault that ends it. -/
def print (out : Output ε) (before : List Text) : List Text → Text × Option ε
  | [] => ([], none)
  | piece :: rest =>
    match out.refusal before piece with
    | some (taken, fault) => (piece.take taken, some fault)
    | none =>
      let printed := out.print (before ++ [piece]) rest
      (piece ++ printed.1, printed.2)

end Output

end RoleGraph
