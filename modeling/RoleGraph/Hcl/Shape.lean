import RoleGraph.Text.Basic

/-!
# Types of configuration values

Values have types, and values of one type may convert to another: numbers and truth values to texts
and back, tuples to lists, objects to mappings, and these part by part. Several types may unify: then
there is a type to which values of all of them convert. Texts absorb numbers and truth values, tuples
of one length and objects with the same names unify part by part, and others become lists and
mappings with elements of one type.
-/

namespace RoleGraph

namespace Hcl

/-- The type of a value. -/
inductive Shape where
  /-- The type of what may be anything. -/
  | any
  | bool
  | number
  | text
  | tuple (parts : List Shape)
  /-- The names are in byte order and differ. -/
  | object (parts : List (Text × Shape))
  /-- Lists with elements of one type. -/
  | list (part : Shape)
  /-- Mappings with elements of one type. -/
  | map (part : Shape)
  deriving Inhabited

namespace Shape

mutual

/-- Whether two types are the same. -/
def same : Shape → Shape → Bool
  | .any, .any | .bool, .bool | .number, .number | .text, .text => true
  | .tuple ss, .tuple ts => sameAll ss ts
  | .object ss, .object ts => sameEntries ss ts
  | .list s, .list t => same s t
  | .map s, .map t => same s t
  | _, _ => false

/-- Whether two lists of types are the same. -/
def sameAll : List Shape → List Shape → Bool
  | [], [] => true
  | s :: ss, t :: ts => same s t && sameAll ss ts
  | _, _ => false

/-- Whether the names and types of entries are the same. -/
def sameEntries : List (Text × Shape) → List (Text × Shape) → Bool
  | [], [] => true
  | (n, s) :: ss, (m, t) :: ts => n == m && same s t && sameEntries ss ts
  | _, _ => false

end

mutual

/-- How deeply a type is nested. -/
def depth : Shape → Nat
  | .tuple ss => depthAll ss + 1
  | .object es => depthEntries es + 1
  | .list s | .map s => depth s + 1
  | _ => 1

/-- The greatest depth of several types. -/
def depthAll : List Shape → Nat
  | [] => 0
  | s :: ss => max (depth s) (depthAll ss)

/-- The greatest depth of the types of entries. -/
def depthEntries : List (Text × Shape) → Nat
  | [] => 0
  | (_, s) :: es => max (depth s) (depthEntries es)

end

mutual

/-- Whether a part of a type may be anything. -/
def isOpen : Shape → Bool
  | .any => true
  | .tuple ss => isOpenAny ss
  | .object es => isOpenEntries es
  | .list s | .map s => isOpen s
  | _ => false

/-- Whether one of several types is open. -/
def isOpenAny : List Shape → Bool
  | [] => false
  | s :: ss => isOpen s || isOpenAny ss

/-- Whether the type of one of several entries is open. -/
def isOpenEntries : List (Text × Shape) → Bool
  | [] => false
  | (_, s) :: es => isOpen s || isOpenEntries es

end

/-- Whether a value of a type may be anything. -/
def isAny : Shape → Bool
  | .any => true
  | _ => false

/-- The parts of a tuple type. -/
def tupleParts? : Shape → Option (List Shape)
  | .tuple ss => some ss
  | _ => none

/-- The parts of an object type. -/
def objectParts? : Shape → Option (List (Text × Shape))
  | .object es => some es
  | _ => none

/-- The type of the elements of a list type. -/
def listPart? : Shape → Option Shape
  | .list s => some s
  | _ => none

/-- The type of the elements of a mapping type. -/
def mapPart? : Shape → Option Shape
  | .map s => some s
  | _ => none

/-- The place of a type when one is looked for that others convert to: general types come before
special ones, and what may be anything comes last. -/
def rank : Shape → Nat
  | .text => 0
  | .list s | .map s => min 1 (rank s)
  | .bool | .number => 1
  | .tuple _ | .object _ => 2
  | .any => 3

/-- Whether values of one scalar type may convert to another. -/
def scalarConverts : Shape → Shape → Bool
  | .bool, .text | .number, .text | .text, .bool | .text, .number => true
  | _, _ => false

mutual

/-- Whether values of one type may convert to another. -/
def converts : Nat → Shape → Shape → Bool
  | 0, _, _ => false
  | fuel + 1, source, target =>
    if source.same target then true
    else match source, target with
      | _, .any => true
      | .any, _ => true
      | .tuple ss, .tuple ts =>
        ss.length == ts.length && (ss.zip ts).all fun (s, t) => converts fuel s t
      | .object ss, .object ts =>
        ts.all fun (n, t) => (ss.lookup n).any fun s => converts fuel s t
      | .list s, .list t => converts fuel s t
      | .map s, .map t => converts fuel s t
      | .tuple ss, .list t =>
        (element? fuel ss t).any fun t => ss.all fun s => converts fuel s t
      | .object ss, .map t =>
        let ss := ss.map (·.2)
        (element? fuel ss t).any fun t => ss.all fun s => converts fuel s t
      | .map s, .object ts => ts.all fun (_, t) => converts fuel s t
      | s, t => scalarConverts s t

/-- The type of the elements when parts become the elements of a list or mapping. If they may be
anything, their types have to unify. -/
def element? : Nat → List Shape → Shape → Option Shape
  | 0, _, _ => none
  | fuel + 1, parts, target =>
    if parts.isEmpty || !target.isAny then some target
    else match unify fuel parts with
      | some .any => if parts.all isAny then some .any else none
      | found => found

/-- The first of some types to which all of them convert. -/
def general? : Nat → List Shape → Option Shape
  | 0, _ => none
  | fuel + 1, shapes =>
    (shapes.mergeSort fun s t => s.rank ≤ t.rank).find? fun t =>
      shapes.all fun s => converts fuel s t

/-- The type that all given types unify to. -/
def unify : Nat → List Shape → Option Shape
  | 0, _ => none
  | fuel + 1, shapes =>
    let known := shapes.filter fun s => !s.isAny
    let settled := known.length == shapes.length
    let maps := known.filterMap mapPart?
    let lists := known.filterMap listPart?
    let objects := known.filterMap objectParts?
    let tuples := known.filterMap tupleParts?
    let total := known.length
    if total = 0 then general? fuel shapes
    else if maps.length = total then
      if settled then (unify fuel maps).map .map else some .any
    else if lists.length = total then
      if settled then (unify fuel lists).map .list else some .any
    else if objects.length = total then
      if settled then unifyObjects fuel objects else some .any
    else if tuples.length = total then
      if settled then unifyTuples fuel tuples else some .any
    else if !maps.isEmpty && maps.length + objects.length = total then
      match if settled then unify fuel (objects.flatMap fun es => es.map (·.2)) else none with
      | some s =>
        match unify fuel (s :: maps) with
        | some t => some (.map t)
        | none => general? fuel shapes
      | none => general? fuel shapes
    else if !lists.isEmpty && lists.length + tuples.length = total then
      match if settled then unify fuel tuples.flatten else none with
      | some s =>
        match unify fuel (s :: lists) with
        | some t => some (.list t)
        | none => general? fuel shapes
      | none => general? fuel shapes
    else if !objects.isEmpty && !tuples.isEmpty then none
    else general? fuel shapes

/-- The type that object types unify to. -/
def unifyObjects : Nat → List (List (Text × Shape)) → Option Shape
  | 0, _ => none
  | _ + 1, [] => none
  | fuel + 1, first :: rest =>
    let names := first.map (·.1)
    if rest.all fun r => r.map (·.1) == names then
      (names.mapM fun n =>
        (unify fuel ((first :: rest).filterMap (·.lookup n))).map (n, ·)).map .object
    else do
      let part ← unify fuel ((first :: rest).flatMap fun es => es.map (·.2))
      let target := Shape.map part
      if (first :: rest).all fun es => converts fuel (.object es) target then some target else none

/-- The type that tuple types unify to. -/
def unifyTuples : Nat → List (List Shape) → Option Shape
  | 0, _ => none
  | _ + 1, [] => none
  | fuel + 1, first :: rest =>
    if rest.all fun r => r.length == first.length then
      ((List.range first.length).mapM fun i =>
        unify fuel ((first :: rest).filterMap (·[i]?))).map .tuple
    else do
      let part ← unify fuel (first :: rest).flatten
      let target := Shape.list part
      if (first :: rest).all fun ss => converts fuel (.tuple ss) target then some target else none

end

/-- How many steps are enough to compare types of a depth: every level takes a few. -/
def steps (depth : Nat) : Nat := 6 * depth + 8

/-- Whether values of one type may convert to another. -/
def convertsTo (s t : Shape) : Bool := converts (steps (max s.depth t.depth)) s t

/-- The type that all given types unify to, if there is one. -/
def unify? (shapes : List Shape) : Option Shape := unify (steps (depthAll shapes)) shapes

/-- The type of the elements when parts become elements. -/
def elementOf? (parts : List Shape) (target : Shape) : Option Shape :=
  element? (steps (max (depthAll parts) target.depth)) parts target

end Shape

end Hcl

end RoleGraph
