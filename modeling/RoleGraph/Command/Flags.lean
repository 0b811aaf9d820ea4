import RoleGraph.Text.Numeral
import RoleGraph.Text.Quoted

/-!
# Command-line flags

Flags are written with one or two hyphens and take a value after an equals sign or as the next
argument; a switch takes one only after an equals sign. Reading stops at the first argument that is
no flag and after a lone `--`. What is read is the list of settings in the order of the arguments.
-/

namespace RoleGraph

namespace Command

/-- One setting made by a flag, named for the option it sets. -/
inductive Setting where
  | file (value : Text)
  | dir (value : Text)
  | rolesDir (value : Text)
  | outputPath (value : Text)
  | format (value : Text)
  | config (value : Text)
  | maxDepth (value : Int)
  | allRoles (value : Bool)
  | stats (value : Bool)
  | matcher (value : Text)
  | exclude (value : Text)
  | logLevel (value : Text)
  | logFormat (value : Text)
  deriving DecidableEq, Repr

/-- The long name of the flag that makes a setting. -/
def Setting.name : Setting → Text
  | .file _ => "file"
  | .dir _ => "dir"
  | .rolesDir _ => "roles-dir"
  | .outputPath _ => "output-path"
  | .format _ => "format"
  | .config _ => "config"
  | .maxDepth _ => "max-depth"
  | .allRoles _ => "all-roles"
  | .stats _ => "stats"
  | .matcher _ => "match"
  | .exclude _ => "exclude"
  | .logLevel _ => "log-level"
  | .logFormat _ => "log-format"

/-- What a flag takes and which setting it makes. -/
inductive Kind where
  /-- A text, with the default that the usage shows. -/
  | text (make : Text → Setting) (shown : Text)
  /-- A number, with its default. -/
  | number (make : Int → Setting) (shown : Int)
  /-- A truth value, off by default. -/
  | switch (make : Bool → Setting)
  /-- A text; every occurrence counts. -/
  | repeated (make : Text → Setting)

/-- A flag that the command line knows. -/
structure Flag where
  name : Text
  kind : Kind
  usage : Text

namespace Flag

/-- How the usage names the value of a flag. -/
def valueName (f : Flag) : Text :=
  match f.kind with
  | .text _ _ => " string"
  | .number _ _ => " int"
  | .switch _ => []
  | .repeated _ => " value"

/-- How the usage shows the default of a flag; an empty one is not shown. -/
def shownDefault (f : Flag) : Text :=
  match f.kind with
  | .text _ shown => if shown.isEmpty then [] else " (default " ++ Text.quote shown ++ ")"
  | .number _ shown => if shown = 0 then [] else " (default " ++ Text.ofInt shown ++ ")"
  | .switch _ | .repeated _ => []

/-- The lines of the usage about a flag. A name of one letter without a value shares its line. -/
def describe (f : Flag) : Text :=
  let head : Text := "  -" ++ f.name ++ f.valueName
  let gap : Text := if head.length ≤ 4 then "\t" else "\n    \t"
  head ++ gap ++ f.usage ++ f.shownDefault ++ "\n"

end Flag

/-- Why flags cannot be read. -/
inductive FlagError where
  /-- Help was asked for. -/
  | help
  | badSyntax (argument : Text)
  | undefined (name : Text)
  | noArgument (name : Text)
  | badNumber (value name : Text) (cause : Numeral.Failure)
  | badSwitch (value name : Text)
  deriving DecidableEq, Repr

/-- The wording of flags that cannot be read. -/
def FlagError.message : FlagError → Text
  | .help => "flag: help requested"
  | .badSyntax argument => "bad flag syntax: " ++ argument
  | .undefined name => "flag provided but not defined: -" ++ name
  | .noArgument name => "flag needs an argument: -" ++ name
  | .badNumber value name cause =>
    "invalid value " ++ Text.quote value ++ " for flag -" ++ name ++ ": " ++
      match cause with
      | .malformed => Text.ofString "parse error"
      | .outOfRange => "value out of range"
  | .badSwitch value name =>
    "invalid boolean value " ++ Text.quote value ++ " for -" ++ name ++ ": parse error"

/-- The truth value of a written switch. -/
def switchValue? (t : Text) : Option Bool :=
  if ["1", "t", "T", "TRUE", "true", "True"].any fun w => t == Text.ofString w then some true
  else if ["0", "f", "F", "FALSE", "false", "False"].any fun w => t == Text.ofString w then some false
  else none

/-- What an argument is. -/
inductive Argument where
  /-- The argument is no flag. -/
  | other
  /-- Nothing after this argument is a flag. -/
  | terminator
  | malformed
  | flag (name : Text) (value : Option Text)
  deriving DecidableEq, Repr

/-- Split the body of a flag at the first equals sign after its first byte. -/
def splitValue : Text → Text × Option Text
  | [] => ([], none)
  | b :: rest =>
    match Text.cut? 0x3D rest with
    | some (name, value) => (b :: name, some value)
    | none => (b :: rest, none)

/-- The body of a flag after its hyphens. -/
def Argument.ofBody (body : Text) : Argument :=
  match body with
  | [] => .malformed
  | b :: _ =>
    if b = 0x2D ∨ b = 0x3D then .malformed
    else
      let (name, value) := splitValue body
      .flag name value

/-- Tell what an argument is. -/
def Argument.of : Text → Argument
  | [0x2D, 0x2D] => .terminator
  | 0x2D :: 0x2D :: body => .ofBody body
  | [0x2D] => .other
  | 0x2D :: body => .ofBody body
  | _ => .other

/-- The setting that a flag makes from a value. -/
def Flag.setting (f : Flag) (value : Text) : Except FlagError Setting :=
  match f.kind with
  | .text make _ | .repeated make => .ok (make value)
  | .number make _ =>
    match Numeral.signed value with
    | .ok n => .ok (make n)
    | .error e => .error (.badNumber value f.name e)
  | .switch make =>
    match switchValue? value with
    | some b => .ok (make b)
    | none => .error (.badSwitch value f.name)

/-- Whether a flag needs no value. -/
def Flag.isSwitch (f : Flag) : Bool :=
  match f.kind with
  | .switch _ => true
  | _ => false

/-- The names that ask for help unless a flag has them. -/
def isHelp (name : Text) : Bool := name == Text.ofString "help" || name == Text.ofString "h"

/-- Read flags from the front of the arguments. The result is the settings in order and the
arguments that are left. -/
def readFlags (flags : List Flag) : List Text → Except FlagError (List Setting × List Text)
  | [] => .ok ([], [])
  | arg :: rest =>
    match Argument.of arg with
    | .other => .ok ([], arg :: rest)
    | .terminator => .ok ([], rest)
    | .malformed => .error (.badSyntax arg)
    | .flag name value =>
      match flags.find? (·.name == name) with
      | none => .error (if isHelp name then .help else .undefined name)
      | some f =>
        match value with
        | some v => do
          let s ← f.setting v
          let (ss, left) ← readFlags flags rest
          return (s :: ss, left)
        | none =>
          if f.isSwitch then do
            let s ← f.setting "true"
            let (ss, left) ← readFlags flags rest
            return (s :: ss, left)
          else
            match rest with
            | [] => .error (.noArgument name)
            | v :: rest => do
              let s ← f.setting v
              let (ss, left) ← readFlags flags rest
              return (s :: ss, left)

end Command

end RoleGraph
