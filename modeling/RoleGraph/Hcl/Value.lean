import RoleGraph.Hcl.Number
import RoleGraph.Hcl.Shape
import RoleGraph.Text.Canonical

/-!
# Values of configuration files

The values that expressions have, and the conversions between them. Texts and the names of entries
are canonical. A value can be unknown: an expression that fails has an unknown value of the type that
it would have had, so that types can be compared all the same. Null has a type too.
-/

namespace RoleGraph

namespace Hcl

/-- A value. The entries of an object or mapping are in byte order of their names, which differ. -/
inductive Value where
  | unknown (s : Shape)
  | null (s : Shape)
  | bool (b : Bool)
  | number (n : Number)
  | text (t : Text)
  | tuple (vs : List Value)
  | object (es : List (Text × Value))
  /-- A list whose elements have the given type. -/
  | list (part : Shape) (vs : List Value)
  /-- A mapping whose elements have the given type. -/
  | map (part : Shape) (es : List (Text × Value))
  deriving Inhabited

namespace Value

/-- The value that a text stands for. -/
def ofText (t : Text) : Value := .text (Text.canonical t)

/-- Set an entry of an object. -/
def setEntry (name : Text) (v : Value) : List (Text × Value) → List (Text × Value)
  | [] => [(name, v)]
  | (n, w) :: rest =>
    if n = name then (name, v) :: rest
    else if name < n then (name, v) :: (n, w) :: rest
    else (n, w) :: setEntry name v rest

/-- The object with the given entries, where a later entry replaces an earlier one. -/
def ofEntries (es : List (Text × Value)) : Value :=
  .object (es.foldl (fun o (n, v) => setEntry n v o) [])

/-- Whether a value is null. -/
def isNull : Value → Bool
  | .null _ => true
  | _ => false

/-- Whether a value is known; one with unknown parts is. -/
def isKnown : Value → Bool
  | .unknown _ => false
  | _ => true

mutual

/-- The type of a value. -/
def shape : Value → Shape
  | .unknown s | .null s => s
  | .bool _ => .bool
  | .number _ => .number
  | .text _ => .text
  | .tuple vs => .tuple (shapes vs)
  | .object es => .object (entryShapes es)
  | .list s _ => .list s
  | .map s _ => .map s

/-- The types of values. -/
def shapes : List Value → List Shape
  | [] => []
  | v :: vs => shape v :: shapes vs

/-- The types of entries. -/
def entryShapes : List (Text × Value) → List (Text × Shape)
  | [] => []
  | (n, v) :: es => (n, shape v) :: entryShapes es

end

mutual

/-- Whether no part of a value is of an unknown type. -/
def isTyped : Value → Bool
  | .unknown .any => false
  | .tuple vs | .list _ vs => areTyped vs
  | .object es | .map _ es => areTypedEntries es
  | _ => true

/-- Whether no part of some values is of an unknown type. -/
def areTyped : List Value → Bool
  | [] => true
  | v :: vs => isTyped v && areTyped vs

/-- Whether no part of some entries is of an unknown type. -/
def areTypedEntries : List (Text × Value) → Bool
  | [] => true
  | (_, v) :: es => isTyped v && areTypedEntries es

end

/-! ## Equality -/

/-- Whether an unknown value may equal a value of some type. Values of different types differ, but
null equals null whatever the types. -/
def maybeEqual (s t : Shape) (null : Bool) : Option Bool :=
  if null || s.isOpen || t.isOpen || s.same t then none else some false

mutual

/-- Equality of values, which can be unknown. Values of different types differ. -/
def equal? : Value → Value → Option Bool
  | .unknown s, w => maybeEqual s (shape w) w.isNull
  | v, .unknown t => maybeEqual (shape v) t v.isNull
  | .null _, w => some w.isNull
  | _, .null _ => some false
  | .bool a, .bool b => some (a == b)
  | .number a, .number b => some (a.same b)
  | .text a, .text b => some (a == b)
  | .tuple vs, .tuple ws =>
    if !(areTyped vs && areTyped ws) then none
    else if !(Shape.sameAll (shapes vs) (shapes ws)) then some false
    else equalAll? vs ws
  | .object es, .object fs =>
    if !(areTypedEntries es && areTypedEntries fs) then none
    else if !(Shape.sameEntries (entryShapes es) (entryShapes fs)) then some false
    else equalEntries? es fs
  | .list s vs, .list t ws =>
    if s.same t && vs.length == ws.length then equalAll? vs ws else some false
  | .map s es, .map t fs =>
    if s.same t && es.map (·.1) == fs.map (·.1) then equalEntries? es fs else some false
  | _, _ => some false

/-- Equality of lists of values; the first difference decides. -/
def equalAll? : List Value → List Value → Option Bool
  | [], [] => some true
  | v :: vs, w :: ws =>
    match equal? v w with
    | some true => equalAll? vs ws
    | other => other
  | _, _ => some false

/-- Equality of entries. -/
def equalEntries? : List (Text × Value) → List (Text × Value) → Option Bool
  | [], [] => some true
  | (_, v) :: es, (_, w) :: fs =>
    match equal? v w with
    | some true => equalEntries? es fs
    | other => other
  | _, _ => some false

end

/-! ## Conversion -/

/-- The text of a truth value. -/
def boolText (b : Bool) : Text := if b then "true" else "false"

/-- The truth value that a text spells. -/
def boolOf? (t : Text) : Option Bool :=
  if t = Text.ofString "true" ∨ t = Text.ofString "1" then some true
  else if t = Text.ofString "false" ∨ t = Text.ofString "0" then some false
  else none

/-- The type of elements of which some may be of an unknown type. -/
def sharedShape (vs : List Value) : Shape :=
  ((shapes vs).find? fun s => !s.isAny).getD .any

/-- An element of unknown type takes the type that the elements share. -/
def withShape (s : Shape) : Value → Value
  | .unknown .any => .unknown s
  | .null .any => .null s
  | v => v

/-- Elements of one type, as they stand in a list or mapping. -/
def alike? (vs : List Value) : Option (Shape × List Value) :=
  let s := sharedShape vs
  let vs := vs.map (withShape s)
  if (shapes vs).all s.same then some (s, vs) else none

/-- Bring elements to one type. -/
def settle? (convert : Value → Shape → Option Value) (vs : List Value) :
    Option (Shape × List Value) := do
  let s ← Shape.unify? (shapes vs)
  alike? (← vs.mapM (convert · s))

/-- Convert a value to a type. -/
def convertWith? : Nat → Value → Shape → Option Value
  | 0, _, _ => none
  | fuel + 1, v, target =>
    let elements? (vs : List Value) (part : Shape) : Option (Shape × List Value) := do
      let part ← Shape.elementOf? (shapes vs) part
      settle? (convertWith? fuel) (← vs.mapM (convertWith? fuel · part))
    if v.shape.same target then some v
    else match v, target with
      | v, .any => some v
      | .unknown s, t => if s.convertsTo t then some (.unknown t) else none
      | .null s, t => if s.convertsTo t then some (.null t) else none
      | .bool b, .text => some (.text (boolText b))
      | .number n, .text => some (.text n.text)
      | .text t, .number => (Number.ofText? t).map .number
      | .text t, .bool => (boolOf? t).map .bool
      | .tuple vs, .tuple ss =>
        if vs.length = ss.length then
          ((vs.zip ss).mapM fun (v, s) => convertWith? fuel v s).map .tuple
        else none
      | .object es, .object ss =>
        (ss.mapM fun (n, s) => (es.lookup n).bind fun v =>
          (convertWith? fuel v s).map (n, ·)).map .object
      | .tuple vs, .list s =>
        if vs.isEmpty then some (.list s [])
        else (elements? vs s).map fun (s, vs) => .list s vs
      | .object es, .map s =>
        if es.isEmpty then some (.map s [])
        else (elements? (es.map (·.2)) s).map fun (s, vs) => .map s ((es.map (·.1)).zip vs)
      | .list p vs, .list s =>
        if !p.convertsTo s then none
        else if vs.isEmpty then some (.list (if s.isAny then p else s) [])
        else ((vs.mapM (convertWith? fuel · s)).bind alike?).map fun (s, vs) => .list s vs
      | .map p es, .map s =>
        if !p.convertsTo s then none
        else if es.isEmpty then some (.map (if s.isAny then p else s) [])
        else (((es.map (·.2)).mapM (convertWith? fuel · s)).bind alike?).map fun (s, vs) =>
          .map s ((es.map (·.1)).zip vs)
      | .map p es, .object ss =>
        (ss.mapM fun (n, s) =>
          if !p.convertsTo s then none
          else (es.lookup n).bind fun v => (convertWith? fuel v s).map (n, ·)).map .object
      | _, _ => none

mutual

/-- How deeply a value is nested. -/
def depth : Value → Nat
  | .tuple vs | .list _ vs => depthAll vs + 1
  | .object es | .map _ es => depthEntries es + 1
  | _ => 1

/-- The greatest depth of several values. -/
def depthAll : List Value → Nat
  | [] => 0
  | v :: vs => max (depth v) (depthAll vs)

/-- The greatest depth of the values of entries. -/
def depthEntries : List (Text × Value) → Nat
  | [] => 0
  | (_, v) :: es => max (depth v) (depthEntries es)

end

/-- The value converted to a type, if it can be. Unknown values and nulls change their type only. -/
def convert? (v : Value) (target : Shape) : Option Value := convertWith? (v.depth + 1) v target

/-- The known text that a value converts to. -/
def toText? (v : Value) : Option Text :=
  match v.convert? .text with
  | some (.text t) => some t
  | _ => none

/-- The known number that a value converts to. -/
def toNumber? (v : Value) : Option Number :=
  match v.convert? .number with
  | some (.number n) => some n
  | _ => none

/-- The known truth value that a value converts to. -/
def toBool? (v : Value) : Option Bool :=
  match v.convert? .bool with
  | some (.bool b) => some b
  | _ => none

/-- The known texts of the list that a value converts to; null is the list without elements. -/
def toTexts? (v : Value) : Option (List Text) :=
  match v.convert? (.list .text) with
  | some (.null _) => some []
  | some (.list _ vs) => vs.mapM fun
    | .text t => some t
    | _ => none
  | _ => none

/-- The keys and elements of a list or mapping. -/
def elements? : Value → Option (List (Value × Value))
  | .tuple vs | .list _ vs => some (vs.zipIdx.map fun (v, i) => (.number (.ofIndex i), v))
  | .object es | .map _ es => some (es.map fun (n, v) => (.text n, v))
  | _ => none

end Value

end Hcl

end RoleGraph
