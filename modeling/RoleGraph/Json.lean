import RoleGraph.Text.Symbol

/-!
# JSON texts

JSON values and their two layouts: on one line, and with two spaces of indentation per level. A
byte that is no UTF-8 is written as the escape of the replacement character. Which characters are
escaped beyond the necessary ones is chosen by the writer.
-/

namespace RoleGraph

/-- A JSON value. Numbers keep their written form, and members their order. -/
inductive Json where
  | null
  | bool (b : Bool)
  | number (numeral : Text)
  | str (t : Text)
  | array (items : List Json)
  | object (members : List (Text × Json))
  deriving Inhabited

namespace Json

/-- The choices in escaping strings. -/
structure Escapes where
  /-- Escape `<`, `>` and `&`. -/
  markup : Bool
  /-- Write backspace and form feed with a letter. -/
  letters : Bool

/-- Documents can be embedded in markup. -/
def Escapes.document : Escapes := ⟨true, true⟩

/-- Log lines keep markup as it is. -/
def Escapes.line : Escapes := ⟨false, false⟩

/-- The numeric escape of a character of at most sixteen bits. -/
def numericEscape (n : Nat) : Text := "\\u" ++ Text.hex 4 n

/-- One symbol between the quotes. -/
def escapeSymbol (e : Escapes) : Symbol → Text
  | .stray _ => numericEscape 0xFFFD
  | .char c =>
    let n := c.toNat
    if c == '"' || c == '\\' then "\\" ++ Text.encodeChar c
    else if n == 0x0A then "\\n"
    else if n == 0x0D then "\\r"
    else if n == 0x09 then "\\t"
    else if n == 0x08 && e.letters then "\\b"
    else if n == 0x0C && e.letters then "\\f"
    else if n < 0x20 || n == 0x2028 || n == 0x2029 then numericEscape n
    else if e.markup && (c == '<' || c == '>' || c == '&') then numericEscape n
    else Text.encodeChar c

/-- A string between quotes. -/
def quoted (e : Escapes) (t : Text) : Text :=
  "\"" ++ (Text.symbols t).flatMap (escapeSymbol e) ++ "\""

mutual

/-- A value on one line, without blanks. -/
def compact (e : Escapes) : Json → Text
  | .null => "null"
  | .bool b => if b then Text.ofString "true" else "false"
  | .number t => t
  | .str t => quoted e t
  | .array items => "[" ++ Text.joinWith "," (compactItems e items) ++ "]"
  | .object members => "\x7b" ++ Text.joinWith "," (compactMembers e members) ++ "\x7d"

/-- The items of an array, each on one line. -/
def compactItems (e : Escapes) : List Json → List Text
  | [] => []
  | v :: rest => v.compact e :: compactItems e rest

/-- The members of an object, each on one line. -/
def compactMembers (e : Escapes) : List (Text × Json) → List Text
  | [] => []
  | (k, v) :: rest => (quoted e k ++ ":" ++ v.compact e) :: compactMembers e rest

end

/-- A line break followed by the indentation of a level. -/
def lineAt (level : Nat) : Text := "\n" ++ List.replicate (2 * level) (0x20 : UInt8)

/-- Parts of a collection, each on a line of its own; an empty collection stays on its line. -/
def onLines (level : Nat) (opening closing : Text) (parts : List Text) : Text :=
  if parts.isEmpty then opening ++ closing
  else
    let sep : Text := "," ++ lineAt (level + 1)
    opening ++ lineAt (level + 1) ++ Text.joinWith sep parts ++ lineAt level ++ closing

mutual

/-- A value with its parts on lines of their own. -/
def pretty (e : Escapes) (level : Nat) : Json → Text
  | .null => "null"
  | .bool b => if b then Text.ofString "true" else "false"
  | .number t => t
  | .str t => quoted e t
  | .array items => onLines level "[" "]" (prettyItems e (level + 1) items)
  | .object members => onLines level "\x7b" "\x7d" (prettyMembers e (level + 1) members)

/-- The items of an array at a level. -/
def prettyItems (e : Escapes) (level : Nat) : List Json → List Text
  | [] => []
  | v :: rest => v.pretty e level :: prettyItems e level rest

/-- The members of an object at a level. -/
def prettyMembers (e : Escapes) (level : Nat) : List (Text × Json) → List Text
  | [] => []
  | (k, v) :: rest => (quoted e k ++ ": " ++ v.pretty e level) :: prettyMembers e level rest

end

end Json

end RoleGraph
