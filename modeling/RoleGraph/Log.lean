import RoleGraph.Decimal.Double
import RoleGraph.Json
import RoleGraph.Text.Blank
import RoleGraph.Text.Case
import RoleGraph.Text.Quoted

/-!
# Log lines

A record has a level, a message and attributes, and is written as `key=value` pairs or as a JSON
object on one line. A logger drops the records below its level.
-/

namespace RoleGraph.Log

/-- How grave a record is. -/
inductive Level where
  | debug
  | info
  | warn
  | error
  deriving DecidableEq, Repr

namespace Level

/-- The position of a level among the others. -/
def rank : Level → Nat
  | .debug => 0
  | .info => 1
  | .warn => 2
  | .error => 3

/-- The written name of a level. -/
def name : Level → Text
  | .debug => "DEBUG"
  | .info => "INFO"
  | .warn => "WARN"
  | .error => "ERROR"

/-- The level with a given name, in any case and with blanks around it; any other name is `info`. -/
def ofName (t : Text) : Level :=
  let t := Text.lower (Text.trim t)
  if t = Text.ofString "debug" then .debug
  else if t = Text.ofString "warn" ∨ t = Text.ofString "warning" then .warn
  else if t = Text.ofString "error" then .error
  else .info

end Level

/-- The value of an attribute. -/
inductive Value where
  | text (t : Text)
  | int (n : Int)
  | float (x : Double)
  | bool (b : Bool)
  | null
  deriving DecidableEq, Repr

/-- One record. -/
structure Record where
  level : Level
  message : Text
  attrs : List (Text × Value) := []
  deriving DecidableEq, Repr

/-- How lines are written. -/
inductive Style where
  | pairs
  | json
  deriving DecidableEq, Repr

/-- The style with a given name; only `json`, in any case, asks for JSON. -/
def Style.ofName (t : Text) : Style := if Text.sameFolded t "json" then .json else .pairs

/-- Floats in pairs are positional while their exponent lies between -4 and 5. -/
def pairLayout : Double.Layout :=
  { low := -4, high := 6, exponentWidth := 2
    positiveInfinity := "+Inf", negativeInfinity := "-Inf", notANumber := "NaN" }

/-- Floats in JSON are positional while their exponent lies between -6 and 20. -/
def jsonLayout : Double.Layout := { pairLayout with low := -6, high := 21, exponentWidth := 1 }

/-- Whether a symbol forces quotes around a key or a value. -/
def needsQuotes : Symbol → Bool
  | .stray _ => true
  | .char c =>
    let n := c.toNat
    if n < 0x80 then n ≤ 0x20 || c == '=' || c == '"'
    else c == '\uFFFD' || isBlankChar c || !isPrintable c

/-- A key or a value, in quotes when it is empty or needs them. -/
def word (t : Text) : Text :=
  if t.isEmpty || (Text.symbols t).any needsQuotes then Text.quote t else t

/-- The text of a value in a pair. -/
def Value.plain : Value → Text
  | .text t => t
  | .int n => Text.ofInt n
  | .float x => x.format pairLayout
  | .bool b => if b then Text.ofString "true" else "false"
  | .null => "<nil>"

/-- A value in JSON. -/
def Value.toJson : Value → Json
  | .text t => .str t
  | .int n => .number (Text.ofInt n)
  | .float x => .number (x.format jsonLayout)
  | .bool b => .bool b
  | .null => .null

/-- The key given to a value that has none. -/
def missingKey : Text := "!BADKEY"

/-- Keys and values that alternate: a text takes the next argument as its value, and any other
argument, or a last text, is a value without a key. -/
def pairUp : List Value → List (Text × Value)
  | [] => []
  | .text k :: v :: rest => (k, v) :: pairUp rest
  | v :: rest => (missingKey, v) :: pairUp rest

/-- The attributes that are written: one without key and value is left out. -/
def Record.written (r : Record) : List (Text × Value) :=
  r.attrs.filter fun (k, v) => !(k.isEmpty && v == .null)

/-- The line of a record. -/
def Record.line (style : Style) (r : Record) : Text :=
  match style with
  | .pairs =>
    Text.joinWith " " <|
      ("level=" ++ r.level.name) :: ("msg=" ++ word r.message) ::
        r.written.map fun (k, v) => word k ++ "=" ++ word v.plain
  | .json =>
    Json.compact .line <| .object <|
      ("level", .str r.level.name) :: ("msg", .str r.message) ::
        r.written.map fun (k, v) => (k, v.toJson)

/-- The lines that a logger of the given level writes. -/
def lines (threshold : Level) (style : Style) (records : List Record) : List Text :=
  (records.filter fun r => threshold.rank ≤ r.level.rank).map (Record.line style)

end RoleGraph.Log
