import RoleGraph.Hcl.Template
import RoleGraph.Hcl.Token

/-!
# Reading configuration files

Expressions and bodies are read from tokens by recursive descent. Line breaks end an item of a body
and separate the entries of an object; inside parentheses, brackets, sequences of templates and `for`
expressions they do not count. The fuel bounds the depth of the descent, which the number of tokens
bounds too.
-/

namespace RoleGraph

namespace Hcl

namespace Parse

/-- The tokens from the next one on; line breaks are passed over unless they count. -/
def next (breaks : Bool) (ts : List Token) : List Token :=
  if breaks then ts else ts.dropWhile (· == .newline)

/-- The rest after a given token. -/
def expect (t : Token) (breaks : Bool) (ts : List Token) : Option (List Token) :=
  match next breaks ts with
  | u :: rest => if u = t then some rest else none
  | [] => none

/-- A name. -/
def name (breaks : Bool) (ts : List Token) : Option (Text × List Token) :=
  match next breaks ts with
  | .name n :: rest => some (n, rest)
  | _ => none

/-- The token of a word. -/
def word (s : String) : Token := .name (Text.ofString s)

/-- Whether the next token is a given one. -/
def isNext (t : Token) (breaks : Bool) (ts : List Token) : Bool := (next breaks ts).head? == some t

/-- The operators by how tightly they bind, the loosest first. -/
def levels : List (List (Mark × BinaryOp)) :=
  [[(.either, .or)], [(.both, .and)], [(.equal, .equal), (.notEqual, .notEqual)],
    [(.less, .less), (.lessEqual, .lessEqual), (.greater, .greater), (.greaterEqual, .greaterEqual)],
    [(.plus, .add), (.minus, .sub)], [(.star, .mul), (.slash, .div), (.percent, .mod)]]

/-- The operator of a level that a token is. -/
def operator? (level : Nat) (m : Mark) : Option BinaryOp := (levels[level]?).bind (·.lookup m)

/-- The variables of a `for`: a key and an element, or an element alone. -/
def loopVariables (ts : List Token) : Option ((Option Text × Text) × List Token) := do
  let (first, ts) ← name false ts
  let (names, ts) ← match expect (.mark .comma) false ts with
    | some ts => (name false ts).map fun (second, ts) => ((some first, second), ts)
    | none => some ((none, first), ts)
  let ts ← expect (word "in") false ts
  return (names, ts)

/-- The number that a token spells, as an expression. -/
def numeral (t : Text) : Option Expr := (Number.ofText? t).map fun n => .literal (.number n)

/-- An index written after a point. -/
def pointIndex (t : Text) : Option Expr := if t.contains 0x2E then none else numeral t

/-- Steps after points, as a splat with an asterisk after a point takes them. -/
def pointSteps : Nat → Bool → Expr → List Token → Option (Expr × List Token)
  | 0, _, _, _ => none
  | fuel + 1, breaks, e, ts =>
    match next breaks ts with
    | .mark .dot :: rest =>
      match next breaks rest with
      | .name n :: rest => pointSteps fuel breaks (.attribute e n) rest
      | .number t :: rest => do
        let key ← pointIndex t
        pointSteps fuel breaks (.index e key) rest
      | _ => none
    | _ => some (e, ts)

/-- The names that qualify the name of a function. -/
def qualifiers : List Token → Option (List Token)
  | .mark .doubleColon :: .name _ :: rest => qualifiers rest
  | .mark .doubleColon :: _ => none
  | ts => some ts

mutual

/-- An expression: an operation, or a conditional of expressions. -/
def expression : Nat → Bool → List Token → Option (Expr × List Token)
  | 0, _, _ => none
  | fuel + 1, breaks, ts => do
    let (condition, ts) ← operation fuel 0 breaks ts
    match next breaks ts with
    | .mark .question :: rest => do
      let (yes, ts) ← expression fuel breaks rest
      let ts ← expect (.mark .colon) breaks ts
      let (no, ts) ← expression fuel breaks ts
      return (.conditional condition yes no, ts)
    | _ => some (condition, ts)

/-- An operation whose operators bind at least as tightly as a level says. -/
def operation : Nat → Nat → Bool → List Token → Option (Expr × List Token)
  | 0, _, _, _ => none
  | fuel + 1, level, breaks, ts =>
    if levels.length ≤ level then do
      let (e, ts) ← term fuel breaks ts
      steps fuel breaks e ts
    else do
      let (left, ts) ← operation fuel (level + 1) breaks ts
      operands fuel level breaks left ts

/-- Further operands of a level, taken from the left. -/
def operands : Nat → Nat → Bool → Expr → List Token → Option (Expr × List Token)
  | 0, _, _, _, _ => none
  | fuel + 1, level, breaks, left, ts =>
    match next breaks ts with
    | .mark m :: rest =>
      match operator? level m with
      | some op => do
        let (right, ts) ← operation fuel (level + 1) breaks rest
        operands fuel level breaks (.binary op left right) ts
      | none => some (left, ts)
    | _ => some (left, ts)

/-- The steps after a term: attributes, indices and splats. -/
def steps : Nat → Bool → Expr → List Token → Option (Expr × List Token)
  | 0, _, _, _ => none
  | fuel + 1, breaks, e, ts =>
    match next breaks ts with
    | .mark .dot :: rest =>
      match next breaks rest with
      | .name n :: rest => steps fuel breaks (.attribute e n) rest
      | .number t :: rest => do
        let key ← pointIndex t
        steps fuel breaks (.index e key) rest
      | .mark .star :: rest => do
        let (step, ts) ← pointSteps fuel breaks .each rest
        steps fuel breaks (.splat e step) ts
      | _ => none
    | .mark .openBracket :: rest =>
      match next breaks rest with
      | .mark .star :: rest => do
        let ts ← expect (.mark .closeBracket) breaks rest
        let (step, ts) ← steps fuel breaks .each ts
        return (.splat e step, ts)
      | _ => do
        let (key, ts) ← expression fuel false rest
        let ts ← expect (.mark .closeBracket) false ts
        steps fuel breaks (.index e key) ts
    | _ => some (e, ts)

/-- A term. -/
def term : Nat → Bool → List Token → Option (Expr × List Token)
  | 0, _, _ => none
  | fuel + 1, breaks, ts =>
    match next breaks ts with
    | .mark .openParen :: rest => do
      let (e, ts) ← expression fuel false rest
      let ts ← expect (.mark .closeParen) false ts
      return (.whole e, ts)
    | .number t :: rest => (numeral t).map (·, rest)
    | .name n :: rest =>
      if isNext (.mark .openParen) breaks rest || isNext (.mark .doubleColon) breaks rest then do
        let ts ← qualifiers (next breaks rest)
        let ts ← expect (.mark .openParen) breaks ts
        let ts ← arguments fuel ts
        return (.undefined, ts)
      else if n = Text.ofString "true" then some (.literal (.bool true), rest)
      else if n = Text.ofString "false" then some (.literal (.bool false), rest)
      else if n = Text.ofString "null" then some (.literal (.null .any), rest)
      else some (.variable n, rest)
    | .openQuote :: rest => do
      let (ps, ts) ← pieces fuel .closeQuote rest
      let e ← Part.toExpr? (Part.ofPieces false ps)
      return (e, ts)
    | .openHeredoc isFlush :: rest => do
      let (ps, ts) ← pieces fuel .closeHeredoc rest
      let ps := Part.ofPieces false ps
      let e ← Part.toExpr? (if isFlush then Part.flush ps else ps)
      return (e, ts)
    | .mark .minus :: rest => do
      let (e, ts) ← term fuel breaks rest
      let (e, ts) ← steps fuel breaks e ts
      return (.unary .negate e, ts)
    | .mark .bang :: rest => do
      let (e, ts) ← term fuel breaks rest
      let (e, ts) ← steps fuel breaks e ts
      return (.unary .not e, ts)
    | .mark .openBracket :: rest =>
      if isNext (word "for") false rest then loop fuel false rest
      else do
        let (es, ts) ← elements fuel rest
        return (.tuple es, ts)
    | .mark .openBrace :: rest =>
      if isNext (word "for") false rest then loop fuel true rest
      else do
        let (es, ts) ← entries fuel rest
        return (.object es, ts)
    | _ => none

/-- The arguments of a call up to the closing parenthesis. -/
def arguments : Nat → List Token → Option (List Token)
  | 0, _ => none
  | fuel + 1, ts =>
    match expect (.mark .closeParen) false ts with
    | some ts => some ts
    | none => do
      let (_, ts) ← expression fuel false ts
      match next false ts with
      | .mark .closeParen :: rest => some rest
      | .mark .ellipsis :: rest => expect (.mark .closeParen) false rest
      | .mark .comma :: rest => arguments fuel rest
      | _ => none

/-- The elements of a list up to the closing bracket. -/
def elements : Nat → List Token → Option (List Expr × List Token)
  | 0, _ => none
  | fuel + 1, ts =>
    match expect (.mark .closeBracket) false ts with
    | some ts => some ([], ts)
    | none => do
      let (e, ts) ← expression fuel false ts
      match next false ts with
      | .mark .closeBracket :: rest => some ([e], rest)
      | .mark .comma :: rest => do
        let (es, ts) ← elements fuel rest
        return (e :: es, ts)
      | _ => none

/-- The entries of an object up to the closing brace. -/
def entries : Nat → List Token → Option (List (Expr × Expr) × List Token)
  | 0, _ => none
  | fuel + 1, ts =>
    match ts with
    | .newline :: rest => entries fuel rest
    | .mark .closeBrace :: rest => some ([], rest)
    | ts => do
      let computed := isNext (.mark .openParen) true ts
      let (key, ts) ← expression fuel true ts
      let key := if computed then key else key.entryName
      let ts ← match ts with
        | .mark .assign :: rest | .mark .colon :: rest => some rest
        | _ => none
      let (e, ts) ← expression fuel true ts
      match ts with
      | .mark .closeBrace :: rest => some ([(key, e)], rest)
      | .mark .comma :: rest | .newline :: rest => do
        let (es, ts) ← entries fuel rest
        return ((key, e) :: es, ts)
      | _ => none

/-- A `for` expression after its opening bracket or brace. -/
def loop : Nat → Bool → List Token → Option (Expr × List Token)
  | 0, _, _ => none
  | fuel + 1, isObject, ts => do
    let ts ← expect (word "for") false ts
    let ((key, element), ts) ← loopVariables ts
    let (source, ts) ← expression fuel false ts
    let ts ← expect (.mark .colon) false ts
    let (first, ts) ← expression fuel false ts
    let (second, ts) ← match expect (.mark .arrow) false ts with
      | some ts => (expression fuel false ts).map fun (e, ts) => (some e, ts)
      | none => some (none, ts)
    let (group, ts) := match expect (.mark .ellipsis) false ts with
      | some ts => (true, ts)
      | none => (false, ts)
    let (filter, ts) ← match expect (word "if") false ts with
      | some ts => expression fuel false ts
      | none => some (.literal (.bool true), ts)
    let ts ← expect (.mark (if isObject then .closeBrace else .closeBracket)) false ts
    match second, isObject, group with
    | some e, true, group => some (.forObject key element source first e filter group, ts)
    | none, false, false => some (.forTuple key element source first filter, ts)
    | _, _, _ => none

/-- The pieces of a template up to a closing token. -/
def pieces : Nat → Token → List Token → Option (List Piece × List Token)
  | 0, _, _ => none
  | fuel + 1, closer, ts =>
    match ts with
    | [] => none
    | t :: rest =>
      if t = closer then some ([], rest)
      else match t with
        | .literal t => (pieces fuel closer rest).map fun (ps, ts) => (⟨.literal t, false, false⟩ :: ps, ts)
        | .interpolation trim => do
          let (e, ts) ← expression fuel false rest
          closed fuel closer trim (.value e) ts
        | .directive trim => do
          let (keyword, ts) ← name false rest
          if keyword = Text.ofString "if" then
            let (e, ts) ← expression fuel false ts
            closed fuel closer trim (.ifMark e) ts
          else if keyword = Text.ofString "for" then
            let ((key, element), ts) ← loopVariables ts
            let (e, ts) ← expression fuel false ts
            closed fuel closer trim (.forMark key element e) ts
          else if keyword = Text.ofString "else" then closed fuel closer trim .elseMark ts
          else if keyword = Text.ofString "endif" then closed fuel closer trim .endIf ts
          else if keyword = Text.ofString "endfor" then closed fuel closer trim .endFor ts
          else none
        | _ => none

/-- A piece whose sequence ends here, and the pieces after it. -/
def closed : Nat → Token → Bool → Part → List Token → Option (List Piece × List Token)
  | 0, _, _, _, _ => none
  | fuel + 1, closer, before, part, ts =>
    match next false ts with
    | .close after :: rest =>
      (pieces fuel closer rest).map fun (ps, ts) => (⟨part, before, after⟩ :: ps, ts)
    | _ => none

end

/-- The labels of a block up to its opening brace. -/
def labels : List Token → Option (List Text × List Token)
  | .mark .openBrace :: rest => some ([], rest)
  | .name n :: rest => (labels rest).map fun (ls, ts) => (n :: ls, ts)
  | .openQuote :: .closeQuote :: rest => (labels rest).map fun (ls, ts) => ([] :: ls, ts)
  | .openQuote :: .literal t :: .closeQuote :: rest =>
    (labels rest).map fun (ls, ts) => (t :: ls, ts)
  | _ => none

/-- The rest after the end of an item. -/
def endItem : List Token → Option (List Token)
  | [] => some []
  | .newline :: rest => some rest
  | _ => none

/-- The only item of a block that is written on one line. -/
def singleItem (fuel : Nat) (ts : List Token) : Option (List Item × List Token) :=
  match ts with
  | .name n :: .mark .assign :: rest => do
    let (e, ts) ← expression fuel true rest
    match ts with
    | .mark .closeBrace :: rest => some ([.attribute n e], rest)
    | _ => none
  | _ => none

/-- Whether no attribute is given twice. -/
def isWellFormed (items : List Item) : Bool := decide (attributeNames items).Nodup

/-- The items of a body: those of a file up to its end, those of a block up to its closing brace. -/
def body : Nat → Bool → List Token → Option (List Item × List Token)
  | 0, _, _ => none
  | fuel + 1, isBlock, ts =>
    match ts with
    | [] => if isBlock then none else some ([], [])
    | .newline :: rest => body fuel isBlock rest
    | .mark .closeBrace :: rest => if isBlock then some ([], rest) else none
    | .name n :: .mark .assign :: rest => do
      let (e, ts) ← expression fuel true rest
      let ts ← endItem ts
      let (items, ts) ← body fuel isBlock ts
      return (.attribute n e :: items, ts)
    | .name n :: rest => do
      let (names, ts) ← labels rest
      let (inner, ts) ← match ts with
        | .newline :: _ | .mark .closeBrace :: _ => body fuel true ts
        | ts => singleItem fuel ts
      if !isWellFormed inner then none
      let ts ← endItem ts
      let (items, ts) ← body fuel isBlock ts
      return (.block n names inner :: items, ts)
    | _ => none

end Parse

/-- The items of a configuration file, if it can be read. -/
def parse? (t : Text) : Option (List Item) := do
  let ts ← Token.ofText? t
  let (items, _) ← Parse.body (16 * (ts.length + 2)) false ts
  if Parse.isWellFormed items then some items else none

end Hcl

end RoleGraph
