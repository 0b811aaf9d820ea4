import RoleGraph.Yaml.Node
import RoleGraph.Yaml.Value
import RoleGraph.Text.Base64

/-!
# From nodes to values

Decoding goes on after a value of the wrong type, so that a later and graver fault is still found;
the mistake is only noted. Repeated keys of a mapping are such a mistake. A scalar that does not
fit its tag, a collection as a key of a dictionary, an alias inside its own target and a document
that is nearly all repetition by aliases end the decoding at once.

A merge key adds the entries of other mappings after those of its own mapping and never replaces
one that is there.
-/

namespace RoleGraph.Yaml

/-- Why a document cannot be decoded. -/
inductive DecodeError (ε : Type) where
  /-- The document breaks a rule of the format. -/
  | invalid
  /-- An entry breaks a rule of the reader that asked for it. -/
  | rejected (reason : ε)
  deriving DecidableEq, Repr

/-- What decoding keeps count of. -/
structure Progress where
  /-- A value had the wrong type. -/
  mistaken : Bool := false
  /-- Nodes decoded so far. -/
  decoded : Nat := 0
  /-- Those of them reached through an alias. -/
  aliased : Nat := 0

/-- A decoding step. -/
abbrev Decode (ε : Type) := StateT Progress (Except (DecodeError ε))

namespace Decode

variable {ε α : Type}

/-- End the decoding. -/
def invalid : Decode ε α := throw .invalid

/-- End the decoding for a reason of the reader. -/
def reject (reason : ε) : Decode ε α := throw (.rejected reason)

/-- Note a value of the wrong type. -/
def mistake (a : α) : Decode ε α := fun p => .ok (a, { p with mistaken := true })

/-- Whether too much of a document comes from aliases: 99 in 100 nodes up to 400,000 nodes,
falling evenly to 10 in 100 at 4,000,000. -/
def isRepetitive (p : Progress) : Bool :=
  100 < p.aliased && 1000 < p.decoded &&
    if p.decoded ≤ 400000 then 99 * p.decoded < 100 * p.aliased
    else if 4000000 ≤ p.decoded then p.decoded < 10 * p.aliased
    else (99 * 3600000 - 89 * (p.decoded - 400000)) * p.decoded < 100 * 3600000 * p.aliased

/-- Count one node. -/
def count (underAlias : Bool) : Decode ε Unit := fun p =>
  let p := { p with decoded := p.decoded + 1, aliased := p.aliased + if underAlias then 1 else 0 }
  if isRepetitive p then .error .invalid else .ok ((), p)

/-- Run a decoding of a whole document. -/
def result (d : Decode ε α) : Except (DecodeError ε) α :=
  match d {} with
  | .ok (a, p) => if p.mistaken then .error .invalid else .ok a
  | .error e => .error e

/-- Run a decoding with counts of its own, and note its mistake here. -/
def apart (d : Decode ε α) : Decode ε (Option α) := fun p =>
  match d {} with
  | .ok (a, q) => if q.mistaken then .ok (none, { p with mistaken := true }) else .ok (some a, p)
  | .error e => .error e

end Decode

open Decode

variable {ε : Type}

/-- The value of a scalar node. -/
def scalarOf (tag text : Text) : Decode ε Scalar :=
  if tag == Tag.binary then
    match Base64.decode? text with
    | some bytes => pure (.str bytes)
    | none => invalid
  else
    match Scalar.ofTagged? tag text with
    | some s => pure s
    | none => invalid

/-- The text of a scalar node that is read as a string: the text as written, or decoded bytes. Null
is no string. -/
def scalarText (tag text : Text) : Decode ε (Option Text) := do
  match ← scalarOf tag text with
  | .null => pure none
  | .str t => pure (some t)
  | _ => pure (some text)

/-- What two keys are compared by to find repetitions: their kind and their own text. -/
inductive KeyText where
  | scalar (t : Text)
  | sequence
  | mapping
  | alias (name : Text)
  deriving DecidableEq

/-- The comparison text of a key. -/
def Node.keyText : Node → KeyText
  | .scalar _ _ t => .scalar t
  | .sequence _ _ _ => .sequence
  | .mapping _ _ _ => .mapping
  | .alias name _ => .alias name

/-- Whether some key is repeated. -/
def hasRepeatedKey : List (Node × Node) → Bool
  | [] => false
  | (k, _) :: rest => rest.any (fun e => e.1.keyText == k.keyText) || hasRepeatedKey rest

/-- Whether all keys of a mapping are strings. -/
def hasStringKeys (entries : List (Node × Node)) : Bool :=
  entries.all fun (k, _) => k.tag == Tag.str || k.tag == Tag.merge

/-- A node read as a string. -/
def decodeText (underAlias : Bool) : Node → Decode ε (Option Text)
  | .alias _ none => invalid
  | .alias _ (some n) => do count underAlias; decodeText true n
  | .scalar _ tag text => do count underAlias; scalarText tag text
  | .sequence _ _ _ => do count underAlias; mistake none
  | .mapping _ _ _ => do count underAlias; mistake none

/-- What the keys of a mapping may be. -/
inductive KeyType where
  /-- Strings; a scalar of another type is the string it is written as. -/
  | strings
  /-- Any scalars. -/
  | scalars
  deriving DecidableEq

/-- The key of an entry; no key means that the entry is passed over. -/
def decodeKey (type : KeyType) (underAlias : Bool) (n : Node) : Decode ε (Option Scalar) :=
  match type with
  | .strings => return (← decodeText underAlias n).map Scalar.str
  | .scalars => scalarKey underAlias n
where
  scalarKey (underAlias : Bool) : Node → Decode ε (Option Scalar)
    | .alias _ none => invalid
    | .alias _ (some n) => do count underAlias; scalarKey true n
    | .scalar _ tag text => do count underAlias; return some (← scalarOf tag text)
    | .sequence _ _ _ => invalid
    | .mapping _ _ entries => if hasRepeatedKey entries then mistake none else invalid

/-- The keys that a mapping with a merge key has of its own. -/
def ownKeys (underAlias : Bool) : List (Node × Node) → Decode ε (List Scalar)
  | [] => pure []
  | (k, _) :: rest => do
    let key ← decodeKey .scalars underAlias k
    let keys ← ownKeys underAlias rest
    pure (key.toList ++ keys)

/-- Whether a mapping has a merge key. -/
def hasMerge (entries : List (Node × Node)) : Bool := entries.any (·.1.isMerge)

/-- The entries of a mapping that is being decoded. While others are merged in, `seen` holds the
keys that must not be set again. -/
structure Gathered where
  seen : Option (List Scalar) := none
  entries : List (Scalar × Value) := []

namespace Gathered

/-- Whether a key may still be set. -/
def isFresh (g : Gathered) (k : Scalar) : Bool :=
  match g.seen with
  | some ks => !ks.any k.sameKey
  | none => true

/-- Set a key. -/
def put (g : Gathered) (k : Scalar) (v : Value) : Gathered :=
  ⟨g.seen.map (k :: ·), putKey k v g.entries⟩

/-- The entries as a value. -/
def toValue (type : KeyType) (g : Gathered) : Value :=
  match type with
  | .scalars => .dict g.entries
  | .strings => .record (g.entries.filterMap fun
      | (.str k, v) => some (k, v)
      | _ => none)

end Gathered

/-- What the keys of a mapping of unknown content are. -/
def keyTypeOf (entries : List (Node × Node)) : KeyType :=
  if hasStringKeys entries then .strings else .scalars

mutual

/-- The value of a node. -/
def decodeValue (underAlias : Bool) : Node → Decode ε Value
  | .alias _ none => invalid
  | .alias _ (some n) => do count underAlias; decodeValue true n
  | .scalar _ tag text => do count underAlias; return .scalar (← scalarOf tag text)
  | .sequence _ _ items => do count underAlias; return .list (← decodeItems underAlias items)
  | .mapping _ _ entries => do
    count underAlias
    if hasRepeatedKey entries then mistake .null
    else
      let type := keyTypeOf entries
      let g ← decodeEntries type underAlias {} entries
      if hasMerge entries then
        let keys ← ownKeys underAlias entries
        let g ← mergeEntries type underAlias { g with seen := some keys } entries
        return g.toValue type
      else return g.toValue type

/-- The values of the items of a sequence. -/
def decodeItems (underAlias : Bool) : List Node → Decode ε (List Value)
  | [] => pure []
  | n :: rest => do
    let v ← decodeValue underAlias n
    let vs ← decodeItems underAlias rest
    return v :: vs

/-- Add the own entries of a mapping. -/
def decodeEntries (type : KeyType) (underAlias : Bool) (g : Gathered) :
    List (Node × Node) → Decode ε Gathered
  | [] => pure g
  | (k, v) :: rest =>
    if k.isMerge then decodeEntries type underAlias g rest
    else do
      match ← decodeKey type underAlias k with
      | none => decodeEntries type underAlias g rest
      | some key =>
        if g.isFresh key then
          let value ← decodeValue underAlias v
          decodeEntries type underAlias (g.put key value) rest
        else decodeEntries type underAlias g rest

/-- Add the entries that the merge key of a mapping names. -/
def mergeEntries (type : KeyType) (underAlias : Bool) (g : Gathered) :
    List (Node × Node) → Decode ε Gathered
  | [] => pure g
  | (k, v) :: rest =>
    if k.isMerge then mergeFrom type false underAlias g v
    else mergeEntries type underAlias g rest

/-- Add the entries of a mapping, of an alias for one or, unless `listed`, of a sequence of these. -/
def mergeFrom (type : KeyType) (listed underAlias : Bool) (g : Gathered) : Node → Decode ε Gathered
  | .scalar _ _ _ | .alias _ none => invalid
  | .sequence _ _ items => if listed then invalid else mergeItems type underAlias g items
  | .alias _ (some n) =>
    if n.isMapping then do
      count underAlias
      mergeFrom type listed true g n
    else invalid
  | .mapping _ _ entries => do
    count underAlias
    if hasRepeatedKey entries then mistake g
    else
      let g ← decodeEntries type underAlias g entries
      mergeEntries type underAlias g entries

/-- Add the entries of several mappings, the first ones first. -/
def mergeItems (type : KeyType) (underAlias : Bool) (g : Gathered) :
    List Node → Decode ε Gathered
  | [] => pure g
  | n :: rest => do
    let g ← mergeFrom type true underAlias g n
    mergeItems type underAlias g rest

end

end RoleGraph.Yaml
