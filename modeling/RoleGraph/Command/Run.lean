import RoleGraph.Analysis.Run
import RoleGraph.Command.Options
import RoleGraph.Output
import RoleGraph.Project
import RoleGraph.Render.Export
import RoleGraph.Report.Table
import RoleGraph.Settings

/-!
# Runs of the program

A run reads its command line, loads the settings, analyzes the target, writes the graph and prints the
statistics that were asked for, in this order; the first failure ends it. Flags that were given are the
uppermost layer of the settings. The only file that a run changes is the one the graph is written to.
Nothing is written after it, but an output that refuses the statistics makes the run fail when the file
is there already.
-/

namespace RoleGraph

namespace Command

/-- Lay the flags that were given over settings. -/
def Options.overlay (o : Options) (s : Settings) : Settings :=
  { s with
    rolesDir := if o.isSet "roles-dir" then o.rolesDir else s.rolesDir
    outputPath := if o.isSet "output-path" then o.outputPath else s.outputPath
    format := if o.isSet "format" then o.format else s.format
    maxDepth := if o.isSet "max-depth" then o.maxDepth else s.maxDepth
    allRoles := if o.isSet "all-roles" then o.allRoles else s.allRoles
    stats := if o.isSet "stats" then o.stats else s.stats
    matcher := if o.isSet "match" then o.matcher else s.matcher
    exclude := s.exclude ++ o.exclude
    logLevel := if o.isSet "log-level" then o.logLevel else s.logLevel
    logFormat := if o.isSet "log-format" then o.logFormat else s.logFormat }

/-- The project whose roles directory stands in for the built-in one, and that directory. There is
none when a roles directory is set or the built-in one is there. -/
def substitute? (s : Site) (o : Options) (settings : Settings) : Option (Project × Text) :=
  if o.isSet "roles-dir" then none
  else if settings.rolesDir ≠ Settings.builtin.rolesDir then none
  else if s.isDirectory (Location.absolute s.cwd settings.rolesDir) then none
  else
    match Project.detect s o.target with
    | .ok p => p.rolesDir.map (p, ·)
    | .error _ => none

/-- The roles directory of a run. -/
def rolesDirOf (s : Site) (o : Options) (settings : Settings) : Text :=
  match substitute? s o settings with
  | some (_, dir) => dir
  | none => settings.rolesDir

/-- The output format: the one that is named, or else the one that the output path asks for. -/
def formatOf (settings : Settings) : Except UsageError Format :=
  if settings.format.isEmpty then .ok (Format.ofPath settings.outputPath)
  else match Format.ofName? settings.format with
    | some f => .ok f
    | none => .error (.badFormat (Format.unsupportedMessage settings.format))

/-- The analyzer that settings ask for. -/
def analyzerOf (s : Site) (rolesDir : Text) (matcher : Matcher) (settings : Settings) : Analyzer :=
  .ofChoices s rolesDir
    { allRoles := settings.allRoles
      maxDepth := settings.maxDepth
      matcher := some matcher
      includeKeys := settings.includeKeys
      excludes := settings.exclude }

/-- Why a run fails, where `ε` is the type of the faults of its output; an output in memory has none. -/
inductive Failure (ε : Type := Empty) where
  | usage (cause : UsageError)
  | settings (cause : Settings.Failure)
  | playbook (cause : Analysis.PlaybookError)
  | directory (cause : Analyzer.DirectoryError)
  | output (cause : Exporter.Failure)
  /-- The graph is written, but the output does not take the statistics. -/
  | statistics (cause : ε)

variable {ε : Type}

/-- The wording of a run that fails, given that of the faults of its output. -/
def Failure.message (wording : ε → Text) : Failure ε → Text
  | .usage cause => cause.message
  | .settings cause => cause.message
  | .playbook cause => cause.message
  | .directory cause => cause.message
  | .output cause => cause.message
  | .statistics cause => "failed to print stats: " ++ wording cause

/-- The exit code of a run that fails. -/
def Failure.code : Failure ε → Nat
  | .usage _ => UsageError.code
  | _ => 1

/-- What a run leaves behind. -/
structure Outcome (ε : Type := Empty) where
  failure : Option (Failure ε) := none
  /-- The text that the output took. -/
  stdout : Text := []
  /-- The lines written to the log. -/
  logs : List Text := []
  /-- The machine afterwards. -/
  site : Site

/-- The exit code of a run. -/
def Outcome.code (r : Outcome ε) : Nat :=
  match r.failure with
  | none => 0
  | some f => f.code

/-- The step of an analysis that a command asks for. -/
def Options.analysis (o : Options) (a : Analyzer) (s : Site) : Analysis.Step (Failure ε) Unit :=
  match o.command with
  | .playbook => Analysis.wrapping .playbook (a.playbook s o.playbook)
  | .all => Analysis.wrapping .directory (a.directory s o.dir)

/-- The number of hotspots in the statistics. -/
def hotspotLimit : Int := 10

/-- The records about the settings of a run. -/
def preamble (s : Site) (o : Options) (file : Option Text) (settings : Settings) :
    List Log.Record :=
  let loaded : List Log.Record := match file with
    | some file => [⟨.debug, "loaded config", [("path", .text file)]⟩]
    | none => []
  let substituted : List Log.Record := match substitute? s o settings with
    | some (p, dir) =>
      [⟨.info, "using project roles dir",
        [("project", .text p.name), ("type", .text p.type.name), ("target", .text p.relative),
          ("path", .text dir)]⟩]
    | none => []
  loaded ++ substituted

/-- The record about a graph that was written. -/
def written (settings : Settings) (format : Format) (g : Graph) : Log.Record :=
  ⟨.info, "graph written",
    [("path", .text settings.outputPath), ("format", .text format.name),
      ("nodes", .int (g.nodes.length : Int))]⟩

/-- What the part of a run under given settings leaves behind, with the records of the whole run. -/
structure Ending (ε : Type) where
  failure : Option (Failure ε) := none
  /-- The text that the output took. -/
  stdout : Text := []
  records : List Log.Record
  /-- The machine afterwards. -/
  site : Site

/-- Analyze and write the graph under given settings, and print the statistics. The records are those of
the whole run. -/
def perform (out : Output ε) (s : Site) (o : Options) (settings : Settings) (before : List Log.Record) :
    Ending ε :=
  match Matcher.ofName? settings.matcher with
  | none => { failure := some (.usage .badMatcher), records := before, site := s }
  | some matcher =>
    match formatOf settings with
    | .error e => { failure := some (.usage e), records := before, site := s }
    | .ok format =>
      let analyzer := analyzerOf s (rolesDirOf s o settings) matcher settings
      let (result, state) := (o.analysis analyzer s).run { log := before }
      match result with
      | .error e => { failure := some e, records := state.log, site := s }
      | .ok () =>
        let exporter := Exporter.ofNames format.name settings.outputPath
        let log := state.log ++ [exporter.announcement]
        match exporter.run s state.graph with
        | .error e => { failure := some (.output e), records := log, site := s }
        | .ok after =>
          let pieces := if settings.stats then (state.graph.summary hotspotLimit).sections else []
          let (printed, fault) := out.print [] pieces
          { failure := fault.map .statistics, stdout := printed, site := after
            records := log ++ [written settings format state.graph] }

/-- Run with the options of a command line that was accepted. -/
def runOptions (out : Output ε) (s : Site) (o : Options) : Outcome ε :=
  let file := Settings.locate s o.config
  match Settings.load s (file.getD []) with
  | .error e => { failure := some (.settings e), site := s }
  | .ok loaded =>
    let settings := o.overlay loaded
    let ending := perform out s o settings (preamble s o file settings)
    { failure := ending.failure, stdout := ending.stdout, site := ending.site
      logs := Log.lines (.ofName settings.logLevel) (.ofName settings.logFormat) ending.records }

/-- Run with a command line and an output. A fault in printing help is ignored. -/
def runOn (out : Output ε) (s : Site) (args : List Text) : Outcome ε :=
  match parse args with
  | .help text => { stdout := (out.print [] [text]).1, site := s }
  | .refused cause text =>
    { failure := some (.usage cause), stdout := (out.print [] [text]).1, site := s }
  | .options o => runOptions out s o

/-- Run with a command line and an output in memory, which takes everything. -/
def run (s : Site) (args : List Text) : Outcome := runOn .unlimited s args

end Command

end RoleGraph
