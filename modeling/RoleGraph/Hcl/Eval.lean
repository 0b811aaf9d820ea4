import RoleGraph.Hcl.Expr

/-!
# Values of expressions

The value of an expression in a scope of variables, and whether finding it failed. An expression that
fails still has a value, an unknown one at least, for what depends on it needs its type. Failures
spread outward, with two exceptions: a conditional depends only on its condition and the branch that
it takes, and a logical operation that one operand decides does not depend on the other.
-/

namespace RoleGraph

namespace Hcl

/-- The value of an expression, and whether finding it failed. -/
structure Outcome where
  value : Value
  failed : Bool := false

namespace Outcome

/-- A failure of which nothing is known, not even the type. -/
def failure : Outcome := ⟨.unknown .any, true⟩

/-- A value that may be anything, without a failure. -/
def anything : Outcome := ⟨.unknown .any, false⟩

/-- A value, or a failure with an unknown value of a type. -/
def ofOption (s : Shape) (v : Option Value) : Outcome :=
  match v with
  | some v => ⟨v, false⟩
  | none => ⟨.unknown s, true⟩

/-- An outcome that fails also if an earlier one did. -/
def after (o : Outcome) (earlier : Bool) : Outcome := { o with failed := earlier || o.failed }

end Outcome

/-- The variables that an expression sees, inner ones first, and the element a splat is at. -/
structure Bindings where
  scope : List (Text × Value)
  element : Value := .unknown .any

namespace Bindings

/-- Bind the variables of a `for` to a key and an element. -/
def enter (b : Bindings) (keyName : Option Text) (name : Text) (key element : Value) : Bindings :=
  let keys := match keyName with
    | some n => [(n, key)]
    | none => []
  { b with scope := (name, element) :: keys ++ b.scope }

end Bindings

/-! ## Steps into values -/

/-- The entry of a mapping. -/
def Value.attribute (v : Value) (name : Text) : Outcome :=
  let name := Text.canonical name
  match v with
  | .object es | .map _ es => .ofOption .any (es.lookup name)
  | .unknown (.object ss) => .ofOption .any ((ss.lookup name).map .unknown)
  | .unknown (.map s) => ⟨.unknown s, false⟩
  | .unknown .any => .anything
  | _ => .failure

/-- The element of a list under a key. -/
def elementAt (vs : List Value) (key : Number) : Outcome :=
  match key.toInt? with
  | some (.ofNat n) => .ofOption .any vs[n]?
  | _ => .failure

/-- The element of a list or mapping under a key. -/
def Value.index (collection key : Value) : Outcome :=
  if collection.isNull || key.isNull then .failure
  else if collection.shape.isAny || key.shape.isAny then .anything
  else match collection.shape with
    | .tuple ss =>
      match key.convert? .number, collection with
      | some (.number n), .tuple vs => elementAt vs n
      | some (.number n), _ => elementAt (ss.map .unknown) n
      | some _, _ => .anything
      | none, _ => .failure
    | .list s =>
      match key.convert? .number, collection with
      | some (.number n), .list _ vs => elementAt vs n
      | some _, _ => ⟨.unknown s, false⟩
      | none, _ => .failure
    | .map s =>
      match key.convert? .text, collection with
      | some (.text n), .map _ es => .ofOption .any (es.lookup n)
      | some _, _ => ⟨.unknown s, false⟩
      | none, _ => .failure
    | .object _ =>
      match key.convert? .text, collection with
      | some (.text n), .object es => .ofOption .any (es.lookup n)
      | some _, _ => .anything
      | none, _ => .failure
    | _ => .failure

/-! ## Operators -/

/-- The type of the operand of an operator. -/
def UnaryOp.shape : UnaryOp → Shape
  | .negate => .number
  | .not => .bool

/-- The value of an operator on an operand of its type. Null has none. -/
def UnaryOp.apply (op : UnaryOp) (v : Value) : Option Value :=
  match op, v with
  | _, .unknown _ => some (.unknown op.shape)
  | .negate, .number n => some (.number n.neg)
  | .not, .bool b => some (.bool !b)
  | _, _ => none

/-- The outcome of an operator on an operand. -/
def UnaryOp.evaluate (op : UnaryOp) (operand : Outcome) : Outcome :=
  if operand.failed then ⟨.unknown op.shape, true⟩
  else .ofOption op.shape ((operand.value.convert? op.shape).bind op.apply)

/-- The type of the operands of an operator. -/
def BinaryOp.operand : BinaryOp → Shape
  | .or | .and => .bool
  | .equal | .notEqual => .any
  | _ => .number

/-- The type of the value of an operator. -/
def BinaryOp.shape : BinaryOp → Shape
  | .add | .sub | .mul | .div | .mod => .number
  | _ => .bool

/-- A truth value that may be unknown. -/
def Value.ofBool? (b : Option Bool) : Value :=
  match b with
  | some b => .bool b
  | none => .unknown .bool

/-- The value of an operator on numbers. -/
def BinaryOp.compute (op : BinaryOp) (x y : Number) : Option Value :=
  let compared (p : Ordering → Bool) : Option Value := some (.bool (p (x.compare y)))
  match op with
  | .less => compared (·.isLT)
  | .lessEqual => compared (·.isLE)
  | .greater => compared (·.isGT)
  | .greaterEqual => compared (·.isGE)
  | .add => (x.add? y).map .number
  | .sub => (x.sub? y).map .number
  | .mul => (x.mul? y).map .number
  | .div => (x.div? y).map .number
  | .mod => (x.mod? y).map .number
  | .or | .and | .equal | .notEqual => none

/-- The value of an operator on two operands of its type. Null is an operand of the equalities
only. -/
def BinaryOp.apply (op : BinaryOp) (left right : Value) : Option Value :=
  match op with
  | .equal => some (.ofBool? (left.equal? right))
  | .notEqual => some (.ofBool? ((left.equal? right).map (!·)))
  | _ =>
    if left.isNull || right.isNull then none
    else match left, right with
      | .number x, .number y => op.compute x y
      | .bool a, .bool b => some (.bool (if op = .or then a || b else a && b))
      | _, _ => some (.unknown op.shape)

/-- The truth value that decides a logical operator whatever the other operand is. -/
def BinaryOp.deciding? : BinaryOp → Option Bool
  | .or => some true
  | .and => some false
  | _ => none

/-- Whether a value counts as a truth value; null counts as false. -/
def Value.counts (v : Value) (b : Bool) : Bool :=
  match v with
  | .bool c => b == c
  | .null _ => !b
  | _ => false

/-- The outcome of a logical operator that one of its operands decides. If one is unknown and the
other one does not decide, the unknown one stands for both. -/
def BinaryOp.decided? (deciding : Bool) (left right : Outcome) : Option Outcome :=
  let unknown (earlier : Bool) : Option Outcome := some ⟨.unknown .bool, earlier⟩
  if !left.value.isKnown && !right.value.isKnown then none
  else if left.value.counts deciding then some left
  else if right.value.counts deciding then some right
  else if !left.value.isKnown && right.value.counts !deciding then unknown left.failed
  else if !right.value.isKnown && left.value.counts !deciding then unknown right.failed
  else none

/-- The outcome of an operator on two operands. An operand of the wrong type always fails. -/
def BinaryOp.evaluate (op : BinaryOp) (left right : Outcome) : Outcome :=
  match left.value.convert? op.operand, right.value.convert? op.operand with
  | some v, some w =>
    let decided := op.deciding?.bind fun b => decided? b ⟨v, left.failed⟩ ⟨w, right.failed⟩
    match decided with
    | some o => o
    | none =>
      if left.failed || right.failed then ⟨.unknown op.shape, true⟩
      else .ofOption op.shape (op.apply v w)
  | _, _ => ⟨.unknown op.shape, true⟩

/-! ## Conditionals -/

/-- The type of a conditional with given branches. Null takes the type of the other branch, and
nothing is known of the type if one branch may be anything. -/
def conditionalShape? (yes no : Value) : Option Shape :=
  match yes, no with
  | .null .any, no => some no.shape
  | yes, .null .any => some yes.shape
  | yes, no =>
    if yes.shape.isAny || no.shape.isAny then some .any else Shape.unify? [yes.shape, no.shape]

/-- The outcome of a conditional. The branch that is not taken still has a say in the type. -/
def choose (condition yes no : Outcome) : Outcome :=
  match conditionalShape? yes.value no.value with
  | none => .failure
  | some s =>
    if condition.value.isNull then ⟨.unknown s, true⟩
    else if !condition.value.isKnown then
      let both := yes.value.isNull && no.value.isNull
      ⟨if both then .null s else .unknown s, condition.failed⟩
    else match condition.value.toBool? with
      | none => ⟨.unknown s, true⟩
      | some b =>
        let taken := if b then yes else no
        (Outcome.ofOption s (taken.value.convert? s)).after (condition.failed || taken.failed)

/-! ## Loops -/

/-- What a loop has gathered so far. -/
structure Gathered (α : Type) where
  items : List α := []
  /-- Nothing unknown decided about an item. -/
  known : Bool := true
  failed : Bool := false

namespace Gathered

/-- Gather nothing for an element, since something about it is unknown. -/
def lose {α : Type} (g : Gathered α) : Gathered α := { g with known := false }

/-- Gather nothing for an element because of a mistake. Once something is unknown, it is passed
over. -/
def refuse {α : Type} (g : Gathered α) : Gathered α :=
  { g with known := false, failed := g.failed || g.known }

/-- Note whether an expression failed. -/
def note {α : Type} (g : Gathered α) (o : Outcome) : Gathered α :=
  { g with failed := g.failed || o.failed }

/-- Gather an item. -/
def push {α : Type} (g : Gathered α) (a : α) : Gathered α := { g with items := g.items ++ [a] }

/-- Continue with an element if its filter says so. -/
def filter {α : Type} (g : Gathered α) (kept : Outcome) (next : Gathered α → Gathered α) :
    Gathered α :=
  let g := g.note kept
  if kept.value.isNull then g.refuse
  else match kept.value.convert? .bool with
    | none => g.refuse
    | some (.bool true) => next g
    | some (.bool false) => g
    | some _ => g.lose

/-- The outcome of a loop. -/
def outcome {α : Type} (g : Gathered α) (build : List α → Value) : Outcome :=
  ⟨if g.known then build g.items else .unknown .any, g.failed⟩

end Gathered

/-- Gather entries with one name into lists, in the order of their first occurrences. -/
def gather (es : List (Text × Value)) : List (Text × Value) :=
  es.map fun (n, _) => (n, .tuple ((es.filter fun e => e.1 = n).map (·.2)))

/-- Add an entry to those of a loop, whose names differ unless they are gathered. -/
def addEntry (group : Bool) (g : Gathered (Text × Value)) (name : Text) (v : Value) :
    Gathered (Text × Value) :=
  if !group && g.items.any (·.1 == name) then { g with failed := true } else g.push (name, v)

/-- The outcome of a loop over a value. Before the loop starts, the filter is tried with variables
that may be anything. -/
def loop (source : Outcome) (tried : Outcome) (run : List (Value × Value) → Outcome) : Outcome :=
  if source.value.isNull then .failure
  else match source.value with
    | .unknown (.bool) | .unknown (.number) | .unknown (.text) => .failure
    | .unknown _ => ⟨.unknown .any, source.failed⟩
    | v =>
      match v.elements? with
      | none => .failure
      | some es =>
        if tried.failed || tried.value.isNull || (tried.value.convert? .bool).isNone then .failure
        else (run es).after source.failed

/-! ## Splats -/

/-- The elements that a splat goes over. What is no list counts as one element, and null as
none. -/
def splatElements : Value → List Value
  | .null _ => []
  | .tuple vs | .list _ vs => vs
  | v => [v]

/-- The outcome of a splat that takes `step` from every element. -/
def splat (source : Outcome) (step : Value → Outcome) : Outcome :=
  let v := source.value
  let isList := match v.shape with
    | .tuple _ | .list _ => true
    | _ => false
  if source.failed then .failure
  else if v.isNull && isList then .failure
  else if v.isNull then ⟨.tuple [], false⟩
  else if v.shape.isAny then .anything
  else
    let shapeOf (s : Shape) : Shape := (step (.unknown s)).value.shape
    match v with
    | .unknown (.tuple ss) => ⟨.unknown (.tuple (ss.map shapeOf)), ss.any fun s => (step (.unknown s)).failed⟩
    | .unknown (.list s) => ⟨.unknown (.list (shapeOf s)), (step (.unknown s)).failed⟩
    | .list s [] => ⟨.list (shapeOf s) [], (step (.unknown s)).failed⟩
    | v =>
      let elements := splatElements v
      let outcomes := elements.map step
      let values := outcomes.map (·.value)
      if outcomes.any (·.failed) then
        match v with
        | .list s _ => ⟨.unknown (.list (shapeOf s)), true⟩
        | _ => ⟨.unknown (.tuple (elements.map fun x => shapeOf x.shape)), true⟩
      else match v with
        | .unknown _ => .anything
        | .list _ _ => .ofOption .any ((Value.alike? values).map fun (s, vs) => .list s vs)
        | _ => ⟨.tuple values, false⟩

/-! ## Templates -/

/-- What a template has come to so far. -/
structure Written where
  text : Text := []
  known : Bool := true
  failed : Bool := false

/-- Write one part of a template. Null has no text. -/
def Written.push (w : Written) (o : Outcome) : Written :=
  let w := { w with failed := w.failed || o.failed }
  if o.value.isNull then { w with failed := true }
  else
    let w := { w with known := w.known && o.value.isKnown }
    match o.value.convert? .text with
    | some (.text t) => if w.known && !w.failed then { w with text := w.text ++ t } else w
    | some _ => w
    | none => { w with failed := true }

/-- The outcome of a template. -/
def Written.outcome (w : Written) : Outcome :=
  ⟨if w.known then .ofText w.text else .unknown .text, w.failed⟩

/-- The texts of the elements of a list in a row; from an unknown element on nothing is looked at. -/
def joinFrom : Written → List Value → Written
  | w, [] => w
  | w, v :: vs =>
    if v.isKnown then joinFrom (w.push ⟨v, false⟩) vs
    else w.push ⟨v, false⟩

/-- The outcome of the elements of a list in a row. -/
def join (o : Outcome) : Outcome :=
  match o.value with
  | .tuple vs => ((joinFrom {} vs).outcome).after o.failed
  | _ => ⟨.unknown .text, o.failed⟩

mutual

/-- The outcome of an expression. -/
def Expr.eval : Expr → Bindings → Outcome
  | .literal v, _ => ⟨v, false⟩
  | .variable n, b => .ofOption .any (b.scope.lookup n)
  | .each, b => ⟨b.element, false⟩
  | .attribute e n, b =>
    let o := e.eval b
    (o.value.attribute n).after o.failed
  | .index e key, b =>
    let o := e.eval b
    let k := key.eval b
    (o.value.index k.value).after (o.failed || k.failed)
  | .splat e step, b => splat (e.eval b) fun x => step.eval { b with element := x }
  | .unary op e, b => op.evaluate (e.eval b)
  | .binary op left right, b => op.evaluate (left.eval b) (right.eval b)
  | .conditional condition yes no, b => choose (condition.eval b) (yes.eval b) (no.eval b)
  | .tuple es, b =>
    let os := evalAll es b
    ⟨.tuple (os.map (·.value)), os.any (·.failed)⟩
  | .object es, b => (evalEntries es b {}).outcome Value.ofEntries
  | .forTuple keyName name source body filter, b =>
    let tried := filter.eval (b.enter keyName name (.unknown .any) (.unknown .any))
    loop (source.eval b) tried fun es =>
      let gathered := es.foldl (fun (g : Gathered Value) (key, x) =>
        let inner := b.enter keyName name key x
        g.filter (filter.eval inner) fun g =>
          let v := body.eval inner
          (g.note v).push v.value) {}
      gathered.outcome .tuple
  | .forObject keyName name source entry body filter group, b =>
    let tried := filter.eval (b.enter keyName name (.unknown .any) (.unknown .any))
    loop (source.eval b) tried fun es =>
      let gathered := es.foldl (fun (g : Gathered (Text × Value)) (key, x) =>
        let inner := b.enter keyName name key x
        g.filter (filter.eval inner) fun g =>
          let n := entry.eval inner
          let g := g.note n
          if n.value.isNull then g.refuse
          else if !n.value.isKnown then g.lose
          else match n.value.toText? with
            | none => g.refuse
            | some n =>
              let v := body.eval inner
              addEntry group (g.note v) n v.value) {}
      gathered.outcome fun es => Value.ofEntries (if group then gather es else es)
  | .template parts, b => ((evalAll parts b).foldl Written.push {}).outcome
  | .whole e, b => e.eval b
  | .join e, b => join (e.eval b)
  | .undefined, _ => .failure

/-- The outcomes of expressions. -/
def evalAll : List Expr → Bindings → List Outcome
  | [], _ => []
  | e :: es, b => e.eval b :: evalAll es b

/-- The entries of an object. -/
def evalEntries : List (Expr × Expr) → Bindings → Gathered (Text × Value) → Gathered (Text × Value)
  | [], _, g => g
  | (key, e) :: es, b, g =>
    let k := key.eval b
    let v := e.eval b
    let g := (g.note k).note v
    let g :=
      if k.failed then g.lose
      else if k.value.isNull then { g with known := false, failed := true }
      else match k.value.convert? .text with
        | none => { g with known := false, failed := true }
        | some (.text n) => g.push (n, v.value)
        | some _ => g.lose
    evalEntries es b g

end

end Hcl

end RoleGraph
