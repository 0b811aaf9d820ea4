import RoleGraph.Yaml.Scan
import RoleGraph.Yaml.Scalar

/-!
# The node tree of a document

The first document of a stream as a tree of scalars, sequences, mappings and aliases. Every node has
the line it starts on and a short tag, which for an untagged scalar follows from its text.

An alias carries the node it stands for. An alias inside that very node carries a copy of it, whose
own aliases to itself carry another one, and so on three times; the innermost ones carry nothing. No
reader of a document gets further than that: a reader of plain values never ends and has to give up
anyway, and the others look at no more than three collections inside each other.
-/

namespace RoleGraph.Yaml

/-- A node of a document. -/
inductive Node where
  | scalar (line : Nat) (tag : Text) (text : Text)
  | sequence (line : Nat) (tag : Text) (items : List Node)
  | mapping (line : Nat) (tag : Text) (entries : List (Node × Node))
  | alias (name : Text) (target : Option Node)

namespace Node

/-- The line of a node, counted from one. -/
def line : Node → Nat
  | .scalar l _ _ => l
  | .sequence l _ _ => l
  | .mapping l _ _ => l
  | .alias _ none => 0
  | .alias _ (some n) => n.line

/-- The short tag of a node; an alias has the tag of its target. -/
def tag : Node → Text
  | .scalar _ t _ => t
  | .sequence _ t _ => t
  | .mapping _ t _ => t
  | .alias _ none => []
  | .alias _ (some n) => n.tag

/-- Whether a node is itself a mapping. -/
def isMapping : Node → Bool
  | .mapping _ _ _ => true
  | _ => false

/-- Whether a node is the key that merges other mappings in. -/
def isMerge : Node → Bool
  | .scalar _ t text => t == Tag.merge && text == Text.ofString "<<"
  | _ => false

mutual

/-- A node in which every alias that waits for the given name stands for `whole`. -/
def close (name : Text) (whole : Node) : Node → Node
  | .scalar l t x => .scalar l t x
  | .sequence l t items => .sequence l t (closeItems name whole items)
  | .mapping l t entries => .mapping l t (closeEntries name whole entries)
  | .alias n none => if n = name then .alias n (some whole) else .alias n none
  | .alias n (some target) => .alias n (some (close name whole target))

/-- The items of a sequence, closed. -/
def closeItems (name : Text) (whole : Node) : List Node → List Node
  | [] => []
  | n :: rest => close name whole n :: closeItems name whole rest

/-- The entries of a mapping, closed. -/
def closeEntries (name : Text) (whole : Node) : List (Node × Node) → List (Node × Node)
  | [] => []
  | (k, v) :: rest => (close name whole k, close name whole v) :: closeEntries name whole rest

end

/-- A node whose aliases to itself carry it, three times over. -/
def closed (name : Text) (n : Node) : Node :=
  n.close name (n.close name (n.close name n))

end Node

/-- What is known while nodes are read: the tag handles and the anchors seen so far. An anchor
without a node is one whose node is still being read. -/
structure Reading where
  tokens : List Token
  handles : List (Text × Text)
  anchors : List (List Char × Option Node) := []
  /-- The anchors that have been used inside their own nodes. -/
  looped : List (List Char) := []

namespace Reading

/-- The kind and line of the next token, unless the document cannot be read so far. -/
def peek (r : Reading) : Option Token :=
  match r.tokens with
  | t :: _ => if t.kind = .fault then none else some t
  | [] => none

/-- Pass over a token. -/
def skip (r : Reading) : Reading := { r with tokens := r.tokens.tail }

/-- Note that the node of an anchor is being read, when there is an anchor. -/
def openAnchor (r : Reading) (name : Option (List Char)) : Reading :=
  match name with
  | some a => { r with anchors := (a, none) :: r.anchors }
  | none => r

/-- Record the node of an anchor, when there is one, and hand it on. -/
def bindAnchor (r : Reading) (name : Option (List Char)) (n : Node) : Node × Reading :=
  match name with
  | some a =>
    let n := if r.looped.contains a then n.closed (Text.ofChars a) else n
    (n, { r with anchors := (a, some n) :: r.anchors })
  | none => (n, r)

/-- The node that an alias stands for, if it has been read; `none` when there is no such anchor. -/
def resolve (r : Reading) (name : List Char) : Option (Node × Reading) := do
  let target ← r.anchors.lookup name
  let r := if target.isNone then { r with looped := name :: r.looped } else r
  some (.alias (Text.ofChars name) target, r)

/-- The full tag for a handle and a suffix. -/
def expandTag (r : Reading) (handle suffix : Text) : Option Text :=
  if handle.isEmpty then some suffix
  else
    match r.handles.lookup handle with
    | some e => if (e ++ suffix).isEmpty then none else some (e ++ suffix)
    | none => none

/-- Anchor and tag before a node, in either order. -/
def properties (r : Reading) :
    Option (Option (List Char) × Option (Text × Text) × Reading) := do
  let t ← r.peek
  match t.kind with
  | .anchor a =>
    let r := r.skip
    let t ← r.peek
    match t.kind with
    | .tag h s => some (some a, some (h, s), r.skip)
    | _ => some (some a, none, r)
  | .tag h s =>
    let r := r.skip
    let t ← r.peek
    match t.kind with
    | .anchor a => some (some a, some (h, s), r.skip)
    | _ => some (none, some (h, s), r)
  | _ => some (none, none, r)

end Reading

/-- The tag of a collection: its own, or the default. -/
def collectionTag (own : Option Text) (default : Text) : Text :=
  match own with
  | some t => if t = Text.ofString "!" then default else Tag.short t
  | none => default

/-- The tag of a scalar: its own, else string for a quoted one, else what the text reads as. -/
def scalarTag (own : Option Text) (plain : Bool) (text : Text) : Text :=
  let implied :=
    if !plain then Tag.str
    else if text = Text.ofString "<<" then Tag.merge
    else (Scalar.ofPlain text).tag
  match own with
  | some t => if t = Text.ofString "!" then implied else Tag.short t
  | none => implied

/-- An empty node. -/
def emptyNode (line : Nat) : Node := .scalar line Tag.null []

/-- Where a node stands, which decides what may be left out. -/
inductive Context where
  | block
  /-- The key or value of a block mapping, where a sequence needs no indentation. -/
  | blockPair
  | flow
  deriving DecidableEq

mutual

/-- Read a node. Every call passes over a token or hands the same tokens to a call that does, so
four steps per token are enough. -/
def readNode (fuel : Nat) (ctx : Context) (r : Reading) : Option (Node × Reading) :=
  match fuel with
  | 0 => none
  | fuel + 1 => do
    let first ← r.peek
    match first.kind with
    | .alias name =>
      r.skip.resolve name
    | _ =>
      let line := first.line + 1
      let (anchor, tagParts, r) ← r.properties
      let own ← match tagParts with
        | some (h, s) => (r.expandTag h s).map some
        | none => some none
      let t ← r.peek
      let open_ := r.openAnchor anchor
      match t.kind with
      | .blockEntry =>
        if ctx = .blockPair then
          let (items, r) ← readIndentless fuel open_ []
          let n := Node.sequence line (collectionTag own Tag.seq) items
          some (r.bindAnchor anchor n)
        else if anchor.isSome || own.isSome then
          let n := Node.scalar line (scalarTag own true []) []
          some (r.bindAnchor anchor n)
        else none
      | .scalar text plain =>
        let text := Text.ofChars text
        let n := Node.scalar line (scalarTag own plain text) text
        some (r.skip.bindAnchor anchor n)
      | .flowSequenceStart =>
        let (items, r) ← readFlowItems fuel true open_.skip []
        let n := Node.sequence line (collectionTag own Tag.seq) items
        some (r.bindAnchor anchor n)
      | .flowMappingStart =>
        let (entries, r) ← readFlowEntries fuel true open_.skip []
        let n := Node.mapping line (collectionTag own Tag.map) entries
        some (r.bindAnchor anchor n)
      | .blockSequenceStart =>
        if ctx = .flow then
          if anchor.isSome || own.isSome then
            let n := Node.scalar line (scalarTag own true []) []
            some (r.bindAnchor anchor n)
          else none
        else
          let (items, r) ← readBlockItems fuel open_.skip []
          let n := Node.sequence line (collectionTag own Tag.seq) items
          some (r.bindAnchor anchor n)
      | .blockMappingStart =>
        if ctx = .flow then
          if anchor.isSome || own.isSome then
            let n := Node.scalar line (scalarTag own true []) []
            some (r.bindAnchor anchor n)
          else none
        else
          let (entries, r) ← readBlockEntries fuel open_.skip []
          let n := Node.mapping line (collectionTag own Tag.map) entries
          some (r.bindAnchor anchor n)
      | _ =>
        if anchor.isSome || own.isSome then
          let n := Node.scalar line (scalarTag own true []) []
          some (r.bindAnchor anchor n)
        else none

/-- Read the items of a block sequence up to its end; items are collected in reverse. -/
def readBlockItems (fuel : Nat) (r : Reading) (items : List Node) : Option (List Node × Reading) :=
  match fuel with
  | 0 => none
  | fuel + 1 => do
    let t ← r.peek
    match t.kind with
    | .blockEntry =>
      let r := r.skip
      let t ← r.peek
      match t.kind with
      | .blockEntry | .blockEnd => readBlockItems fuel r (emptyNode (t.line + 1) :: items)
      | _ =>
        let (n, r) ← readNode fuel .block r
        readBlockItems fuel r (n :: items)
    | .blockEnd => some (items.reverse, r.skip)
    | _ => none

/-- Read the items of a sequence that is not indented inside a block mapping. -/
def readIndentless (fuel : Nat) (r : Reading) (items : List Node) : Option (List Node × Reading) :=
  match fuel with
  | 0 => none
  | fuel + 1 => do
    let t ← r.peek
    match t.kind with
    | .blockEntry =>
      let r := r.skip
      let t ← r.peek
      match t.kind with
      | .blockEntry | .blockEnd | .key | .value =>
        readIndentless fuel r (emptyNode (t.line + 1) :: items)
      | _ =>
        let (n, r) ← readNode fuel .block r
        readIndentless fuel r (n :: items)
    | _ => some (items.reverse, r)

/-- Read the entries of a block mapping up to its end. -/
def readBlockEntries (fuel : Nat) (r : Reading) (entries : List (Node × Node)) :
    Option (List (Node × Node) × Reading) :=
  match fuel with
  | 0 => none
  | fuel + 1 => do
    let t ← r.peek
    match t.kind with
    | .key =>
      let (k, r) ← readBlockHalf fuel r.skip
      let t ← r.peek
      match t.kind with
      | .value =>
        let (v, r) ← readBlockHalf fuel r.skip
        readBlockEntries fuel r ((k, v) :: entries)
      | _ => readBlockEntries fuel r ((k, emptyNode (t.line + 1)) :: entries)
    | .blockEnd => some (entries.reverse, r.skip)
    | _ => none

/-- Read a key or a value of a block mapping, either of which may be empty. -/
def readBlockHalf (fuel : Nat) (r : Reading) : Option (Node × Reading) :=
  match fuel with
  | 0 => none
  | fuel + 1 => do
    let t ← r.peek
    match t.kind with
    | .key | .value | .blockEnd => some (emptyNode (t.line + 1), r)
    | _ => readNode fuel .blockPair r

/-- Read the items of a flow sequence up to its end; `first` means that no comma is due. -/
def readFlowItems (fuel : Nat) (first : Bool) (r : Reading) (items : List Node) :
    Option (List Node × Reading) :=
  match fuel with
  | 0 => none
  | fuel + 1 => do
    let t ← r.peek
    if t.kind = .flowSequenceEnd then some (items.reverse, r.skip)
    else
      let r ← if first then some r else if t.kind = .flowEntry then some r.skip else none
      let t ← r.peek
      match t.kind with
      | .key =>
        let (entry, r) ← readFlowPair fuel r.skip
        readFlowItems fuel false r (.mapping (t.line + 1) Tag.map [entry] :: items)
      | .flowSequenceEnd => some (items.reverse, r.skip)
      | _ =>
        let (n, r) ← readNode fuel .flow r
        readFlowItems fuel false r (n :: items)

/-- Read a single pair inside a flow sequence, after its key token. -/
def readFlowPair (fuel : Nat) (r : Reading) : Option ((Node × Node) × Reading) :=
  match fuel with
  | 0 => none
  | fuel + 1 => do
    let t ← r.peek
    let (k, r) ← match t.kind with
      | .value | .flowEntry | .flowSequenceEnd => some (emptyNode (t.line + 1), r.skip)
      | _ => readNode fuel .flow r
    let t ← r.peek
    match t.kind with
    | .value =>
      let r := r.skip
      let t ← r.peek
      match t.kind with
      | .flowEntry | .flowSequenceEnd => some ((k, emptyNode (t.line + 1)), r)
      | _ =>
        let (v, r) ← readNode fuel .flow r
        some ((k, v), r)
    | _ => some ((k, emptyNode (t.line + 1)), r)

/-- Read the entries of a flow mapping up to its end; `first` means that no comma is due. -/
def readFlowEntries (fuel : Nat) (first : Bool) (r : Reading) (entries : List (Node × Node)) :
    Option (List (Node × Node) × Reading) :=
  match fuel with
  | 0 => none
  | fuel + 1 => do
    let t ← r.peek
    if t.kind = .flowMappingEnd then some (entries.reverse, r.skip)
    else
      let r ← if first then some r else if t.kind = .flowEntry then some r.skip else none
      let t ← r.peek
      match t.kind with
      | .key =>
        let r := r.skip
        let t ← r.peek
        let (k, r) ← match t.kind with
          | .value | .flowEntry | .flowMappingEnd => some (emptyNode (t.line + 1), r)
          | _ => readNode fuel .flow r
        let t ← r.peek
        match t.kind with
        | .value =>
          let r := r.skip
          let t ← r.peek
          match t.kind with
          | .flowEntry | .flowMappingEnd =>
            readFlowEntries fuel false r ((k, emptyNode (t.line + 1)) :: entries)
          | _ =>
            let (v, r) ← readNode fuel .flow r
            readFlowEntries fuel false r ((k, v) :: entries)
        | _ => readFlowEntries fuel false r ((k, emptyNode (t.line + 1)) :: entries)
      | .flowMappingEnd => some (entries.reverse, r.skip)
      | _ =>
        let (k, r) ← readNode fuel .flow r
        let t ← r.peek
        readFlowEntries fuel false r ((k, emptyNode (t.line + 1)) :: entries)

end

/-- The tag handles every document knows. -/
def defaultHandles : List (Text × Text) :=
  [(Text.ofString "!", Text.ofString "!"), (Text.ofString "!!", Tag.common)]

/-- Read the directives before a document: at most one version, which must be 1.1, and at most one
expansion per tag handle. -/
def readDirectives : List Token → Bool → List (Text × Text) →
    Option (List Token × List (Text × Text))
  | [], _, _ => none
  | t :: rest, seen, handles =>
    match t.kind with
    | .version major minor =>
      if seen || major != 1 || minor != 1 then none else readDirectives rest true handles
    | .tagHandle h e =>
      if (handles.lookup h).isSome then none else readDirectives rest seen (handles ++ [(h, e)])
    | _ => some (t :: rest, handles ++ defaultHandles.filter fun d => (handles.lookup d.1).isNone)

/-- The result of reading the first document of a stream. -/
inductive Document where
  /-- The text is not a document. -/
  | malformed
  /-- The stream holds no document. -/
  | missing
  | root (n : Node)

/-- Read the content of a document and the token after it. -/
def readContent (ts : List Token) (handles : List (Text × Text)) (explicit : Bool) :
    Document :=
  let r : Reading := { tokens := ts, handles := handles }
  let read : Option (Node × Reading) := do
    let t ← r.peek
    match t.kind with
    | .version _ _ | .tagHandle _ _ | .documentStart | .documentEnd | .streamEnd =>
      if explicit then some (emptyNode (t.line + 1), r) else none
    | _ => readNode (4 * ts.length + 4) .block r
  match read with
  | some (n, r) => if r.peek.isSome then .root n else .malformed
  | none => .malformed

/-- The node tree of the first document. -/
def Document.ofTokens (ts : List Token) : Document :=
  match ts.tail with
  | [] => .malformed
  | t :: rest =>
    match t.kind with
    | .fault => .malformed
    | .streamEnd => .missing
    | .version _ _ | .tagHandle _ _ | .documentStart =>
      match readDirectives (t :: rest) false [] with
      | some (t :: rest, handles) =>
        if t.kind = .documentStart then readContent rest handles true else .malformed
      | _ => .malformed
    | _ => readContent (t :: rest) defaultHandles false

/-- Read the first document of a text. -/
def Document.ofText (t : Text) : Document := Document.ofTokens (tokens (Source.ofText t))

end RoleGraph.Yaml
