import RoleGraph.Yaml.Decode

/-!
# Mappings with known fields

A mapping read into a structure: each known key sets its field, other keys are passed over without
looking at their values. Merge keys work as in any other mapping, so a field that the mapping sets
itself is never replaced.
-/

namespace RoleGraph.Yaml

open Decode

variable {ε σ : Type}

/-- How the fields of a structure are read. -/
structure FieldReader (ε σ : Type) where
  /-- The keys that set a field. -/
  names : List Text
  /-- Set the field of a key from its node. -/
  set : (key : Text) → (underAlias : Bool) → Node → σ → Decode ε σ

/-- A structure that is being read. While others are merged in, `seen` holds the keys that must not
set a field again. -/
structure Filled (σ : Type) where
  value : σ
  seen : Option (List Scalar) := none

namespace Filled

/-- Whether a key may still set a field. -/
def isFresh (f : Filled σ) (key : Text) : Bool :=
  match f.seen with
  | some ks => !ks.contains (.str key)
  | none => true

/-- Remember a key while merging. -/
def mark (f : Filled σ) (key : Text) : Filled σ :=
  { f with seen := f.seen.map (.str key :: ·) }

end Filled

/-- Set fields from the own entries of a mapping; `done` holds the fields that this mapping has set,
and setting one twice is a mistake. -/
def readFields (reader : FieldReader ε σ) (underAlias : Bool) (done : List Text) (f : Filled σ) :
    List (Node × Node) → Decode ε (Filled σ)
  | [] => pure f
  | (k, v) :: rest =>
    if k.isMerge then readFields reader underAlias done f rest
    else do
      match ← decodeText underAlias k with
      | none => readFields reader underAlias done f rest
      | some key =>
        if !f.isFresh key then readFields reader underAlias done f rest
        else
          let f := f.mark key
          if !reader.names.contains key then readFields reader underAlias done f rest
          else if done.contains key then
            mistake ()
            readFields reader underAlias done f rest
          else
            let value ← reader.set key underAlias v f.value
            readFields reader underAlias (key :: done) { f with value := value } rest

mutual

/-- Set fields from the mappings that the merge key of a mapping names. -/
def mergeFields (reader : FieldReader ε σ) (underAlias : Bool) (f : Filled σ) :
    List (Node × Node) → Decode ε (Filled σ)
  | [] => pure f
  | (k, v) :: rest =>
    if k.isMerge then mergeFieldsFrom reader false underAlias f v
    else mergeFields reader underAlias f rest

/-- Set fields from a mapping, from an alias for one or, unless `listed`, from a sequence of
these. -/
def mergeFieldsFrom (reader : FieldReader ε σ) (listed underAlias : Bool) (f : Filled σ) :
    Node → Decode ε (Filled σ)
  | .scalar _ _ _ | .alias _ none => invalid
  | .sequence _ _ items => if listed then invalid else mergeFieldsItems reader underAlias f items
  | .alias _ (some n) =>
    if n.isMapping then do
      count underAlias
      mergeFieldsFrom reader listed true f n
    else invalid
  | .mapping _ _ entries => do
    count underAlias
    if hasRepeatedKey entries then mistake f
    else
      let f ← readFields reader underAlias [] f entries
      mergeFields reader underAlias f entries

/-- Set fields from several mappings, the first ones first. -/
def mergeFieldsItems (reader : FieldReader ε σ) (underAlias : Bool) (f : Filled σ) :
    List Node → Decode ε (Filled σ)
  | [] => pure f
  | n :: rest => do
    let f ← mergeFieldsFrom reader true underAlias f n
    mergeFieldsItems reader underAlias f rest

end

/-- Read a whole mapping into a structure. -/
def readStructure (reader : FieldReader ε σ) (underAlias : Bool) (init : σ)
    (entries : List (Node × Node)) : Decode ε σ := do
  if hasRepeatedKey entries then mistake init
  else
    let f ← readFields reader underAlias [] { value := init } entries
    if hasMerge entries then
      let keys ← ownKeys underAlias entries
      let f ← mergeFields reader underAlias { f with seen := some keys } entries
      return f.value
    else return f.value

/-- Read a mapping whose keys are strings, whatever they are written as. -/
def readRecord (underAlias : Bool) (entries : List (Node × Node)) :
    Decode ε (List (Text × Value)) := do
  if hasRepeatedKey entries then mistake []
  else
    let g ← decodeEntries .strings underAlias {} entries
    let g ← if hasMerge entries then do
        let keys ← ownKeys underAlias entries
        mergeEntries .strings underAlias { g with seen := some keys } entries
      else pure g
    return g.entries.filterMap fun
      | (.str k, v) => some (k, v)
      | _ => none

end RoleGraph.Yaml
