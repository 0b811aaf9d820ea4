import RoleGraph.Command.Flags
import RoleGraph.Text.Case

/-!
# Command lines

A command line names a command, its target and options. An option that is given more than once has
its last value, whichever spelling was used; exclude patterns add up. The target may be given by its
flag or as an argument after the flags.
-/

namespace RoleGraph

namespace Command

/-- What the program is asked to do. -/
inductive Task where
  /-- Analyze one playbook. -/
  | playbook
  /-- Analyze every playbook below a directory. -/
  | all
  deriving DecidableEq, Repr

/-- The written name of a command. -/
def Task.name : Task → Text
  | .playbook => "playbook"
  | .all => "all"

/-- The command with a given name, in any case. -/
def Task.ofName? (t : Text) : Option Task :=
  let t := Text.lower t
  if t = Text.ofString "playbook" ∨ t = Text.ofString "p" then some .playbook
  else if t = Text.ofString "all" ∨ t = Text.ofString "a" then some .all
  else none

/-- Whether the first argument asks for help. -/
def asksHelp (t : Text) : Bool :=
  let t := Text.lower t
  ["-h", "-help", "--help", "help"].any fun w => t == Text.ofString w

/-- The options of a command line. -/
structure Options where
  command : Task
  playbook : Text := []
  dir : Text := []
  rolesDir : Text := "./roles"
  outputPath : Text := "./ansible_graph.png"
  format : Text := []
  config : Text := []
  maxDepth : Int := 64
  allRoles : Bool := false
  stats : Bool := false
  matcher : Text := "suffix"
  exclude : List Text := []
  logLevel : Text := "info"
  logFormat : Text := "text"
  /-- The long names of the flags that were given. -/
  given : List Text := []
  deriving DecidableEq, Repr

namespace Options

/-- Whether a flag was given, by its long name. -/
def isSet (o : Options) (name : Text) : Bool := o.given.contains name

/-- Apply one setting. -/
def apply (o : Options) (s : Setting) : Options :=
  let o := { o with given := o.given ++ [s.name] }
  match s with
  | .file v => { o with playbook := v }
  | .dir v => { o with dir := v }
  | .rolesDir v => { o with rolesDir := v }
  | .outputPath v => { o with outputPath := v }
  | .format v => { o with format := v }
  | .config v => { o with config := v }
  | .maxDepth v => { o with maxDepth := v }
  | .allRoles v => { o with allRoles := v }
  | .stats v => { o with stats := v }
  | .matcher v => { o with matcher := v }
  | .exclude v => { o with exclude := o.exclude ++ [v] }
  | .logLevel v => { o with logLevel := v }
  | .logFormat v => { o with logFormat := v }

/-- The target of the command. -/
def target (o : Options) : Text :=
  match o.command with
  | .playbook => o.playbook
  | .all => o.dir

/-- Replace the target of the command. -/
def withTarget (o : Options) (t : Text) : Options :=
  match o.command with
  | .playbook => { o with playbook := t }
  | .all => { o with dir := t }

end Options

/-- The flags of a command, in order of their names. -/
def flagsOf (task : Task) : List Flag :=
  let dirs : List Flag := match task with
    | .playbook => []
    | .all =>
      [⟨"d", .text .dir [], "Directory containing playbooks (shorthand)."⟩,
        ⟨"dir", .text .dir [], "Directory containing playbooks."⟩]
  let files : List Flag := match task with
    | .playbook =>
      [⟨"f", .text .file [], "Path to the playbook file (shorthand)."⟩,
        ⟨"file", .text .file [], "Path to the playbook file."⟩]
    | .all => []
  [⟨"all-roles", .switch .allRoles, "Analyze every role of a play instead of the first one."⟩,
    ⟨"config", .text .config [], "HCL configuration file, playgraph.hcl is used when present."⟩] ++
  dirs ++
  [⟨"exclude", .repeated .exclude, "Gitignore style pattern excluded from 'all', repeatable."⟩] ++
  files ++
  [⟨"format", .text .format [],
      "Output format: dot, png, svg, pdf, json or yaml. Inferred from the output path by default."⟩,
    ⟨"log-format", .text .logFormat "text", "Log output format. Options: 'text' or 'json'."⟩,
    ⟨"log-level", .text .logLevel "info",
      "Set the logging level. Options: 'debug', 'info', 'warn', 'error'."⟩,
    ⟨"match", .text .matcher "suffix", "Playbook file matching: 'suffix' or 'substring'."⟩,
    ⟨"max-depth", .number .maxDepth 64, "Maximum include chain length."⟩,
    ⟨"o", .text .outputPath "./ansible_graph.png", "Graph output location (shorthand)."⟩,
    ⟨"output-path", .text .outputPath "./ansible_graph.png", "Graph output location."⟩,
    ⟨"r", .text .rolesDir "./roles", "Directory containing roles (shorthand)."⟩,
    ⟨"roles-dir", .text .rolesDir "./roles", "Directory containing roles."⟩,
    ⟨"stats", .switch .stats, "Print global stats."⟩]

/-- The help text. -/
def usage : Text :=
  "\nplaygraph - call graph of Ansible playbooks, roles and task files.\n\n" ++
  "Usage:\n" ++
  "  playgraph playbook|p -f FILE [options]\n" ++
  "  playgraph all|a      -d DIR  [options]\n\n" ++
  "Commands:\n" ++
  "  playbook  Analyze a single playbook.\n" ++
  "  all       Analyze every playbook under a directory. The roles dir is\n" ++
  "            skipped when it lies under DIR; use -exclude for other\n" ++
  "            non-playbook YAML (group_vars/, molecule/).\n\n" ++
  "Options:\n"

/-- The help text with the flags of a command. -/
def usageOf (task : Task) : Text := usage ++ (flagsOf task).flatMap Flag.describe

/-- Why a command line is refused. -/
inductive UsageError where
  | unknownCommand (name : Text)
  | flags (cause : FlagError)
  | unexpected (arguments : List Text)
  | noTarget (command : Task)
  | badLogFormat
  | badLogLevel
  | badMaxDepth
  | badMatcher
  | badFormat (reason : Text)
  deriving DecidableEq, Repr

/-- The wording of a command line that is refused. -/
def UsageError.message : UsageError → Text
  | .unknownCommand name => "unknown command " ++ Text.quote name ++ ", expected playbook or all"
  | .flags cause => cause.message
  | .unexpected arguments => "unexpected arguments: " ++ Text.joinWith " " arguments
  | .noTarget .playbook => "playbook requires -f FILE"
  | .noTarget .all => "all requires -d DIR"
  | .badLogFormat => "invalid log-format: must be 'text' or 'json'"
  | .badLogLevel => "invalid log-level: must be 'debug', 'info', 'warn', or 'error'"
  | .badMaxDepth => "invalid max-depth: must be positive"
  | .badMatcher => "invalid match: must be 'suffix' or 'substring'"
  | .badFormat reason => "invalid format: " ++ reason

/-- The exit code of a refused command line. -/
def UsageError.code : Nat := 2

/-- Check options and write the names of the log settings in lower case. -/
def Options.validate (o : Options) : Except UsageError Options :=
  if o.target.isEmpty then .error (.noTarget o.command)
  else
    let o := { o with logFormat := Text.lower o.logFormat, logLevel := Text.lower o.logLevel }
    if !(["text", "json"].any fun w => o.logFormat == Text.ofString w) then .error .badLogFormat
    else if !(["debug", "info", "warn", "error"].any fun w => o.logLevel == Text.ofString w) then
      .error .badLogLevel
    else if o.maxDepth < 1 then .error .badMaxDepth
    else .ok o

/-- Take the target from the arguments that are left, unless a flag gave it. -/
def Options.takeTarget (o : Options) (left : List Text) : Except UsageError Options :=
  match left with
  | [] => .ok o
  | first :: _ => if o.target.isEmpty then .ok (o.withTarget first) else .error (.unexpected left)

/-- What comes of a command line. -/
inductive Parsed where
  /-- Nothing is to be done but to print a text. -/
  | help (output : Text)
  /-- The command line is refused, after a text is printed. -/
  | refused (cause : UsageError) (output : Text)
  | options (o : Options)

/-- Read a command line. -/
def parse (args : List Text) : Parsed :=
  match args with
  | [] => .help usage
  | name :: rest =>
    match Task.ofName? name with
    | none => if asksHelp name then .help usage else .refused (.unknownCommand name) []
    | some task =>
      match readFlags (flagsOf task) rest with
      | .error .help => .help (usageOf task)
      | .error e => .refused (.flags e) (e.message ++ "\n" ++ usageOf task)
      | .ok (settings, left) =>
        let o := settings.foldl Options.apply { command := task }
        match (o.takeTarget left).bind Options.validate with
        | .error e => .refused e []
        | .ok o => .options o

end Command

end RoleGraph
