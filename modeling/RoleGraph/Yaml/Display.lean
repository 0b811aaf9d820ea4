import RoleGraph.Yaml.Value

/-!
# The plain text of a value

How a value reads inside a sentence or as part of a file name. Strings stand for themselves,
lists are written in brackets, and mappings in one of two notations with the keys in order.
-/

namespace RoleGraph.Yaml

/-- Floats are positional while their exponent lies between -4 and 5. -/
def displayLayout : Double.Layout :=
  { low := -4
    high := 6
    exponentWidth := 2
    positiveInfinity := "+Inf"
    negativeInfinity := "-Inf"
    notANumber := "NaN" }

/-- The plain text of a scalar. -/
def Scalar.display : Scalar → Text
  | .null => "<nil>"
  | .bool b => if b then Text.ofString "true" else "false"
  | .int n => Text.ofInt n
  | .float x => x.format displayLayout
  | .time t => t.spaced
  | .str t => t

/-- How the entries of a record are written. -/
inductive RecordStyle where
  /-- `{a: 1, b: x}`, for variables. -/
  | braces
  /-- `map[a:1 b:x]`, for tasks. -/
  | brackets
  deriving DecidableEq

/-- Enclose written entries. -/
def RecordStyle.enclose (style : RecordStyle) (entries : List (Text × Text)) : Text :=
  match style with
  | .braces => "\x7b" ++ Text.joinWith ", " (entries.map fun (k, v) => k ++ ": " ++ v) ++ "\x7d"
  | .brackets => "map[" ++ Text.joinWith " " (entries.map fun (k, v) => k ++ ":" ++ v) ++ "]"

mutual

/-- The plain text of a value; dictionaries always have brackets. -/
def Value.display (style : RecordStyle) : Value → Text
  | .scalar s => s.display
  | .list items => "[" ++ Text.joinWith " " (displayItems style items) ++ "]"
  | .record entries => style.enclose (displayEntries style entries)
  | .dict entries => RecordStyle.brackets.enclose (displayKeyed style entries)

/-- The plain texts of the items of a list. -/
def displayItems (style : RecordStyle) : List Value → List Text
  | [] => []
  | v :: rest => v.display style :: displayItems style rest

/-- The plain texts of the entries of a record. -/
def displayEntries (style : RecordStyle) : List (Text × Value) → List (Text × Text)
  | [] => []
  | (k, v) :: rest => (k, v.display style) :: displayEntries style rest

/-- The plain texts of the entries of a dictionary. -/
def displayKeyed (style : RecordStyle) : List (Scalar × Value) → List (Text × Text)
  | [] => []
  | (k, v) :: rest => (k.display, v.display style) :: displayKeyed style rest

end

end RoleGraph.Yaml
