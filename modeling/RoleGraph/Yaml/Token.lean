import RoleGraph.Yaml.Cursor

/-!
# Tokens of a document

What the reader of a document sees: indicators, scalars with their text already folded and
unescaped, and the starts and ends of block collections, which indentation implies.
-/

namespace RoleGraph.Yaml

/-- The kinds of tokens. -/
inductive TokenKind where
  | streamStart
  | streamEnd
  | version (major minor : Nat)
  | tagHandle (handle expansion : Text)
  | documentStart
  | documentEnd
  | blockSequenceStart
  | blockMappingStart
  | blockEnd
  | flowSequenceStart
  | flowSequenceEnd
  | flowMappingStart
  | flowMappingEnd
  | blockEntry
  | flowEntry
  | key
  | value
  | alias (name : List Char)
  | anchor (name : List Char)
  | tag (handle suffix : Text)
  | scalar (text : List Char) (plain : Bool)
  /-- The document cannot be read any further. -/
  | fault
  deriving DecidableEq, Repr

/-- A token and the line it starts on. -/
structure Token where
  kind : TokenKind
  line : Nat
  deriving DecidableEq, Repr

end RoleGraph.Yaml
