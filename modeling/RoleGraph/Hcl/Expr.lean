import RoleGraph.Hcl.Value

/-!
# Expressions of configuration files

What a configuration file says: attributes with expressions, and blocks of them.
-/

namespace RoleGraph

namespace Hcl

/-- Operators on one operand. -/
inductive UnaryOp where
  | negate | not
  deriving DecidableEq, Repr

/-- Operators on two operands. -/
inductive BinaryOp where
  | or | and | equal | notEqual | less | lessEqual | greater | greaterEqual
  | add | sub | mul | div | mod
  deriving DecidableEq, Repr

/-- An expression. -/
inductive Expr where
  | literal (v : Value)
  | variable (name : Text)
  /-- The element that the innermost splat is at. -/
  | each
  | attribute (e : Expr) (name : Text)
  | index (e key : Expr)
  /-- A list with `step` taken from every element. -/
  | splat (e step : Expr)
  | unary (op : UnaryOp) (e : Expr)
  | binary (op : BinaryOp) (left right : Expr)
  | conditional (condition yes no : Expr)
  | tuple (es : List Expr)
  | object (es : List (Expr × Expr))
  /-- A list with `body` for every element of `source` that passes `filter`. -/
  | forTuple (key : Option Text) (element : Text) (source body filter : Expr)
  /-- A mapping from `name` to `body`; with `group`, bodies under one name are gathered. -/
  | forObject (key : Option Text) (element : Text) (source name body filter : Expr) (group : Bool)
  /-- The texts of the parts in a row. -/
  | template (parts : List Expr)
  /-- An expression in parentheses or as the whole of a template. -/
  | whole (e : Expr)
  /-- The texts of the elements in a row. -/
  | join (e : Expr)
  /-- An expression without a value: a call, for there are no functions, or a path in the place of
  the name of an entry. -/
  | undefined
  deriving Inhabited

namespace Expr

/-- Whether an expression is a variable followed by constant steps. -/
def isPath : Expr → Bool
  | .variable _ => true
  | .attribute e _ => e.isPath
  | .index e (.literal _) => e.isPath
  | _ => false

/-- The expression for the name of an entry. A bare word stands for itself, while a longer path
would be ambiguous. -/
def entryName (e : Expr) : Expr :=
  match e with
  | .variable n => .literal (.ofText n)
  | .literal (.null _) => .literal (.text "null")
  | .literal (.bool b) => .literal (.text (Value.boolText b))
  | e => if e.isPath then .undefined else e

end Expr

/-- One item of the body of a file or block. -/
inductive Item where
  | attribute (name : Text) (e : Expr)
  | block (name : Text) (labels : List Text) (items : List Item)

/-- The names of the attributes of a body. -/
def attributeNames (items : List Item) : List Text :=
  items.filterMap fun
    | .attribute n _ => some n
    | .block _ _ _ => none

end Hcl

end RoleGraph
