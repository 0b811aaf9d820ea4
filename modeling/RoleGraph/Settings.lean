import RoleGraph.Hcl.Eval
import RoleGraph.Hcl.Parse
import RoleGraph.Site

/-!
# Settings

The settings of a run in layers: built-in values, then those of a configuration file, then the
environment. A layer replaces a field only where it sets it, and an empty text, a depth of zero, a
list without elements or a false flag sets nothing; exclude patterns add up.
-/

namespace RoleGraph

/-- The settings of a run, or those that a configuration file gives. -/
structure Settings where
  rolesDir : Text
  outputPath : Text
  format : Text
  maxDepth : Int
  allRoles : Bool
  stats : Bool
  matcher : Text
  exclude : List Text
  includeKeys : List Text
  logLevel : Text
  logFormat : Text
  deriving DecidableEq, Repr

namespace Settings

/-- The built-in settings. -/
def builtin : Settings :=
  { rolesDir := "./roles"
    outputPath := "./ansible_graph.png"
    format := []
    maxDepth := 64
    allRoles := false
    stats := false
    matcher := "suffix"
    exclude := []
    includeKeys := []
    logLevel := "info"
    logFormat := "text" }

/-- Settings that set nothing. -/
def blank : Settings :=
  { rolesDir := []
    outputPath := []
    format := []
    maxDepth := 0
    allRoles := false
    stats := false
    matcher := []
    exclude := []
    includeKeys := []
    logLevel := []
    logFormat := [] }

/-- The list that an upper layer gives, or else the one below. -/
def pick {α : Type} (upper lower : List α) : List α := if upper.isEmpty then lower else upper

/-- Lay the settings of a file over others. -/
def laidOver (file base : Settings) : Settings :=
  { rolesDir := pick file.rolesDir base.rolesDir
    outputPath := pick file.outputPath base.outputPath
    format := pick file.format base.format
    maxDepth := if 0 < file.maxDepth then file.maxDepth else base.maxDepth
    allRoles := base.allRoles || file.allRoles
    stats := base.stats || file.stats
    matcher := pick file.matcher base.matcher
    exclude := base.exclude ++ file.exclude
    includeKeys := pick file.includeKeys base.includeKeys
    logLevel := pick file.logLevel base.logLevel
    logFormat := pick file.logFormat base.logFormat }

/-- A layer that sets nothing changes nothing. -/
theorem laidOver_blank (s : Settings) : blank.laidOver s = s := by
  simp [laidOver, blank, pick]

/-- The environment variable that sets the log level. -/
def levelVariable : Text := "PLAYGRAPH_LOG_LEVEL"

/-- Lay the environment over settings. -/
def withEnvironment (env : List (Text × Text)) (s : Settings) : Settings :=
  { s with logLevel := pick ((env.lookup levelVariable).getD []) s.logLevel }

/-! ## Decoding -/

/-- A value as an integer of 64 bits. -/
def int? (v : Hcl.Value) : Option Int := v.toNumber?.bind Hcl.Number.toInt?

/-- Set one attribute of a file; unknown attributes and values of the wrong type are refused. -/
def setAttribute (s : Settings) (name : Text) (v : Hcl.Value) : Option Settings :=
  if name = Text.ofString "roles_dir" then v.toText?.map fun t => { s with rolesDir := t }
  else if name = Text.ofString "output_path" then v.toText?.map fun t => { s with outputPath := t }
  else if name = Text.ofString "format" then v.toText?.map fun t => { s with format := t }
  else if name = Text.ofString "max_depth" then (int? v).map fun n => { s with maxDepth := n }
  else if name = Text.ofString "all_roles" then v.toBool?.map fun b => { s with allRoles := b }
  else if name = Text.ofString "stats" then v.toBool?.map fun b => { s with stats := b }
  else if name = Text.ofString "match" then v.toText?.map fun t => { s with matcher := t }
  else if name = Text.ofString "exclude" then v.toTexts?.map fun ts => { s with exclude := ts }
  else if name = Text.ofString "include_keys" then
    v.toTexts?.map fun ts => { s with includeKeys := ts }
  else none

/-- Set one attribute of the block about the log. -/
def setLogAttribute (s : Settings) (name : Text) (v : Hcl.Value) : Option Settings :=
  if name = Text.ofString "level" then v.toText?.map fun t => { s with logLevel := t }
  else if name = Text.ofString "format" then v.toText?.map fun t => { s with logFormat := t }
  else none

/-- Set the attributes of a body one after the other by `set`, and its blocks by `enter`. -/
def setItems (b : Hcl.Bindings) (set : Settings → Text → Hcl.Value → Option Settings)
    (enter : Settings → Text → List Text → List Hcl.Item → Option Settings) :
    List Hcl.Item → Settings → Option Settings
  | [], s => some s
  | .attribute name e :: rest, s => do
    let o := e.eval b
    if o.failed then none
    setItems b set enter rest (← set s name o.value)
  | .block name labels items :: rest, s => do
    let s ← enter s name labels items
    setItems b set enter rest s

/-- The name of the block about the log. -/
def logBlock : Text := "log"

/-- Set what the block about the log gives; no other block is known. -/
def setBlock (b : Hcl.Bindings) (s : Settings) (name : Text) (labels : List Text)
    (items : List Hcl.Item) : Option Settings :=
  if name = logBlock && labels.isEmpty then
    setItems b setLogAttribute (fun _ _ _ _ => none) items s
  else none

/-- How many blocks a body has. -/
def blockCount (items : List Hcl.Item) : Nat :=
  items.countP fun
    | .block _ _ _ => true
    | .attribute _ _ => false

/-- The settings that the items of a file give. -/
def ofItems? (b : Hcl.Bindings) (items : List Hcl.Item) : Option Settings :=
  if 1 < blockCount items then none else setItems b setAttribute (setBlock b) items blank

/-! ## Loading -/

/-- The variables of a configuration file: the working directory and the environment. -/
def bindings (s : Site) : Hcl.Bindings :=
  let env := s.env.filter fun (n, _) => !n.isEmpty
  { scope := [(Text.ofString "cwd", .ofText s.cwd),
      (Text.ofString "env", Hcl.Value.ofEntries (env.map fun (n, t) => (n.canonical, .ofText t)))] }

/-- Why a configuration file cannot be used. -/
inductive Failure where
  /-- The file is not there, or it is malformed. -/
  | unreadable (file : Text)
  /-- An expression has no value, or something unknown or of the wrong type is set. -/
  | undecodable (file : Text)
  | negativeDepth (file : Text)
  deriving DecidableEq, Repr

/-- The wording of a configuration file that cannot be used. -/
def Failure.message : Failure → Text
  | .unreadable file => "invalid config: failed to parse " ++ file
  | .undecodable file => "invalid config: failed to decode " ++ file
  | .negativeDepth file => "invalid config: " ++ file ++ ": max_depth must not be negative"

/-- The settings that a configuration file gives. -/
def ofFile (s : Site) (file : Text) : Except Failure Settings :=
  match (s.contentAt? file).bind Hcl.parse? with
  | none => .error (.unreadable file)
  | some items =>
    match ofItems? (bindings s) items with
    | none => .error (.undecodable file)
    | some given => if given.maxDepth < 0 then .error (.negativeDepth file) else .ok given

/-- The built-in settings with a configuration file, if one is named, and the environment over
them. -/
def load (s : Site) (file : Text) : Except Failure Settings :=
  if file.isEmpty then .ok (withEnvironment s.env builtin)
  else (ofFile s file).map fun given => withEnvironment s.env (given.laidOver builtin)

/-- The configuration file that is used when none is named. -/
def defaultFile : Text := "playgraph.hcl"

/-- The configuration file to use: the one that is named, or else the default one if it is there. -/
def locate (s : Site) (named : Text) : Option Text :=
  if !named.isEmpty then some named
  else match s.find? (Location.absolute s.cwd defaultFile) with
    | some (.file _) => some defaultFile
    | _ => none

end Settings

end RoleGraph
