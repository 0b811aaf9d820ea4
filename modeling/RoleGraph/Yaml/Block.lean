import RoleGraph.Yaml.KeyOrder
import RoleGraph.Yaml.Written

/-!
# Written documents

A document in block style. Mappings are indented to the next multiple of four, and what stands in a
sequence item to the column after its dash. Empty collections are written as `[]` and `{}`. A key
that spans lines or is longer than 128 bytes stands on a line of its own after a question mark.
-/

namespace RoleGraph.Yaml

/-- What is written, with the entries of a mapping in their final order. -/
inductive Block where
  | scalar (s : Scalar)
  | list (items : List Block)
  | mapping (entries : List (Scalar × Block))

namespace Block

/-- A string. -/
def str (t : Text) : Block := .scalar (.str t)

/-- Entries in the natural order of their keys. -/
def ordered (entries : List (Scalar × Block)) : List (Scalar × Block) :=
  entries.mergeSort fun a b => !b.1.writtenBefore a.1

mutual

/-- The block of a value: mappings are written in the natural order of their keys. -/
def ofValue : Value → Block
  | .scalar s => .scalar s
  | .list items => .list (ofItems items)
  | .record entries => .mapping (ordered (ofRecord entries))
  | .dict entries => .mapping (ordered (ofDict entries))

/-- The blocks of items. -/
def ofItems : List Value → List Block
  | [] => []
  | v :: rest => ofValue v :: ofItems rest

/-- The blocks of the entries of a record. -/
def ofRecord : List (Text × Value) → List (Scalar × Block)
  | [] => []
  | (k, v) :: rest => (.str k, ofValue v) :: ofRecord rest

/-- The blocks of the entries of a dictionary. A key that is not the same as itself leads to no value,
so null is written after it. -/
def ofDict : List (Scalar × Value) → List (Scalar × Block)
  | [] => []
  | (k, v) :: rest =>
    (k, if k = .float .nan then .scalar .null else ofValue v) :: ofDict rest

end

/-- Where a node is written, which decides its indentation and whether it starts on a new line. -/
inductive Place where
  /-- After the dash of a sequence item. -/
  | item
  /-- After a key on the same line. -/
  | value
  /-- After the colon of a value whose key stands on lines of its own. -/
  | apart
  deriving DecidableEq

/-- The next multiple of four. -/
def nextStop (indent : Nat) : Nat := (indent + 4) / 4 * 4

/-- The indentation inside a node. -/
def Place.inner (place : Place) (indent : Nat) : Nat :=
  match place with
  | .item => indent + 2
  | .value | .apart => nextStop indent

/-- What stands between the indicator and the first entry of a collection. -/
def Place.gap (place : Place) (indent : Nat) : Text :=
  match place with
  | .item => " "
  | .value => "\n" ++ spaces (nextStop indent)
  | .apart => spaces (nextStop indent - indent - 1)

/-- Whether a text has just ended a line. -/
def endsLine (t : Text) : Bool :=
  (Text.ofString "\n").isSuffixOf t || (Text.ofString "\u2028").isSuffixOf t || (Text.ofString "\u2029").isSuffixOf t

/-- The start of a line after a text: a break, unless the text has just ended one, and the indentation. -/
def newLine (indent : Nat) (before : Text) : Text :=
  (if endsLine before then [] else Text.ofString "\n") ++ spaces indent

/-- A key with the colon that follows it, and the place of its value. -/
def keyText (indent : Nat) (k : Scalar) : Text × Place :=
  let s := k.spelled
  if s.isSimpleKey then (s.render (nextStop indent) ++ ":", .value)
  else
    let key := "? " ++ s.render (nextStop indent)
    (key ++ newLine indent key ++ ":", .apart)

mutual

/-- A node after its indicator. -/
def render (place : Place) (indent : Nat) : Block → Text
  | .scalar s => " " ++ s.spelled.render (place.inner indent)
  | .list [] => " []"
  | .list (b :: rest) =>
    let inner := place.inner indent
    let first := "-" ++ render .item inner b
    place.gap indent ++ first ++ renderItems inner first rest
  | .mapping [] => " \x7b\x7d"
  | .mapping ((k, b) :: rest) =>
    let inner := place.inner indent
    let (key, at_) := keyText inner k
    let first := key ++ render at_ inner b
    place.gap indent ++ first ++ renderEntries inner first rest

/-- The remaining items of a sequence after the text of the one before. -/
def renderItems (indent : Nat) (before : Text) : List Block → Text
  | [] => []
  | b :: rest =>
    let item := "-" ++ render .item indent b
    newLine indent before ++ item ++ renderItems indent item rest

/-- The remaining entries of a mapping after the text of the one before. -/
def renderEntries (indent : Nat) (before : Text) : List (Scalar × Block) → Text
  | [] => []
  | (k, b) :: rest =>
    let (key, at_) := keyText indent k
    let entry := key ++ render at_ indent b
    newLine indent before ++ entry ++ renderEntries indent entry rest

end

/-- A document whose root is a mapping. -/
def document (entries : List (Scalar × Block)) : Text :=
  match entries with
  | [] => "\x7b\x7d\n"
  | (k, b) :: rest =>
    let (key, at_) := keyText 0 k
    let first := key ++ render at_ 0 b
    let body := first ++ renderEntries 0 first rest
    if endsLine body then body else body ++ "\n"

end Block

end RoleGraph.Yaml
