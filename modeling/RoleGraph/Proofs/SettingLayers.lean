import RoleGraph.Proofs.FileSettings
import RoleGraph.Proofs.OptionValues
import RoleGraph.Proofs.RunOutcome

/-!
# The layers of the settings

A field of the settings has the value of the uppermost layer that sets it: the flags, then the environment
for the log level alone, then the configuration file, then the built-in value. What sets a field differs
from layer to layer: a flag that was given, whatever its value, but in the environment and the file only
a text that is not empty, a positive number or a flag that is on. Lists of patterns add up. Every layer
of the depth is positive, so an analyzer takes the depth as it is.
-/

namespace RoleGraph

namespace Command

variable {s : Site} {args : List Text} {o : Options} {file settings : Settings}

/-! ## Layers -/

/-- The value of the uppermost layer that sets a field, or else the built-in one. -/
def uppermost {α : Type} : List (Option α) → α → α
  | [], builtin => builtin
  | none :: below, builtin => uppermost below builtin
  | some value :: _, _ => value

/-- A flag sets a field when it was given. -/
def Options.flag? {α : Type} (o : Options) (name : Text) (value : α) : Option α :=
  if o.isSet name then some value else none

/-- A text or a list sets a field when it is not empty. -/
def unlessEmpty {α : Type} (value : List α) : Option (List α) := if value.isEmpty then none else some value

/-- A number sets a field when it is positive. -/
def ifPositive (value : Int) : Option Int := if 0 < value then some value else none

/-- A truth value sets a field when it is true. -/
def ifTrue (value : Bool) : Option Bool := if value then some true else none

/-- A flag lies over what is below it. -/
theorem uppermost_flag {α : Type} (o : Options) (name : Text) (value : α) (below : List (Option α)) (builtin : α) :
    uppermost (o.flag? name value :: below) builtin = if o.isSet name then value else uppermost below builtin := by
  unfold Options.flag?
  split_ifs <;> rfl

/-- A text lies over what is below it. -/
theorem uppermost_unlessEmpty {α : Type} (value : List α) (below : List (Option (List α))) (builtin : List α) :
    uppermost (unlessEmpty value :: below) builtin = Settings.pick value (uppermost below builtin) := by
  unfold unlessEmpty Settings.pick
  split_ifs <;> rfl

/-- A number lies over what is below it. -/
theorem uppermost_ifPositive (value : Int) (below : List (Option Int)) (builtin : Int) :
    uppermost (ifPositive value :: below) builtin = if 0 < value then value else uppermost below builtin := by
  unfold ifPositive
  split_ifs <;> rfl

/-- A truth value lies over one that is false at the bottom. -/
theorem uppermost_ifTrue (value : Bool) : uppermost [ifTrue value] false = value := by
  cases value <;> rfl

/-- The log level that the environment gives. -/
def environmentLevel (env : List (Text × Text)) : Text := (env.lookup (Text.ofString "PLAYGRAPH_LOG_LEVEL")).getD []

/-- Each field of the settings has the value of the uppermost layer that sets it. -/
structure Layered (env : List (Text × Text)) (o : Options) (file settings : Settings) : Prop where
  rolesDir : settings.rolesDir =
    uppermost [o.flag? "roles-dir" o.rolesDir, unlessEmpty file.rolesDir] "./roles"
  outputPath : settings.outputPath =
    uppermost [o.flag? "output-path" o.outputPath, unlessEmpty file.outputPath] "./ansible_graph.png"
  format : settings.format = uppermost [o.flag? "format" o.format, unlessEmpty file.format] []
  maxDepth : settings.maxDepth = uppermost [o.flag? "max-depth" o.maxDepth, ifPositive file.maxDepth] 64
  allRoles : settings.allRoles = uppermost [o.flag? "all-roles" o.allRoles, ifTrue file.allRoles] false
  stats : settings.stats = uppermost [o.flag? "stats" o.stats, ifTrue file.stats] false
  matcher : settings.matcher = uppermost [o.flag? "match" o.matcher, unlessEmpty file.matcher] "suffix"
  logLevel : settings.logLevel =
    uppermost [o.flag? "log-level" o.logLevel, unlessEmpty (environmentLevel env), unlessEmpty file.logLevel] "info"
  logFormat : settings.logFormat =
    uppermost [o.flag? "log-format" o.logFormat, unlessEmpty file.logFormat] "text"
  exclude : settings.exclude = file.exclude ++ o.exclude
  includeKeys : settings.includeKeys = file.includeKeys

/-- Flags over the environment over a file over the built-in settings are layers. -/
theorem layered_overlay (env : List (Text × Text)) (o : Options) (file : Settings) :
    Layered env o file (o.overlay ((file.laidOver .builtin).withEnvironment env)) where
  rolesDir := by
    rw [uppermost_flag, uppermost_unlessEmpty]
    rfl
  outputPath := by
    rw [uppermost_flag, uppermost_unlessEmpty]
    rfl
  format := by
    rw [uppermost_flag, uppermost_unlessEmpty]
    rfl
  maxDepth := by
    rw [uppermost_flag, uppermost_ifPositive]
    rfl
  allRoles := by
    rw [uppermost_flag, uppermost_ifTrue]
    exact congrArg (if o.isSet "all-roles" then o.allRoles else ·) (Bool.false_or _)
  stats := by
    rw [uppermost_flag, uppermost_ifTrue]
    exact congrArg (if o.isSet "stats" then o.stats else ·) (Bool.false_or _)
  matcher := by
    rw [uppermost_flag, uppermost_unlessEmpty]
    rfl
  logLevel := by
    rw [uppermost_flag, uppermost_unlessEmpty, uppermost_unlessEmpty]
    rfl
  logFormat := by
    rw [uppermost_flag, uppermost_unlessEmpty]
    rfl
  exclude := rfl
  includeKeys := by
    change Settings.pick file.includeKeys [] = file.includeKeys
    unfold Settings.pick
    split_ifs with hempty
    · exact (List.isEmpty_iff.mp hempty).symm
    · rfl

/-! ## The settings of a run -/

/-- The settings that a configuration file gives. Without a file nothing is set. -/
def FileLayer (s : Site) : Option Text → Settings → Prop
  | none, file => file = .blank
  | some name, file => Settings.ofFile s name = .ok file

/-- A file that is used gives the settings that are decoded from it. -/
theorem fileLayer_of_locate {named name : Text} (hlocate : Settings.locate s named = some name)
    (h : Settings.ofFile s name = .ok file) : FileLayer s (Settings.locate s named) file := by
  rw [hlocate]
  exact h

/-- A file that is used has a name. -/
theorem locate_ne_nil {named name : Text} (h : Settings.locate s named = some name) : name.isEmpty = false := by
  unfold Settings.locate at h
  split_ifs at h with hnamed
  · obtain rfl := Option.some.inj h
    simpa using hnamed
  · split at h
    · obtain rfl := Option.some.inj h
      rfl
    · cases h

/-- The settings are loaded from the file that is used, if it gives settings. -/
theorem load_of_fileLayer (h : FileLayer s (Settings.locate s o.config) file) :
    Settings.load s ((Settings.locate s o.config).getD []) = .ok ((file.laidOver .builtin).withEnvironment s.env) := by
  cases hlocate : Settings.locate s o.config with
  | none =>
    rw [hlocate] at h
    rw [show file = .blank from h, Settings.laidOver_blank]
    rfl
  | some name =>
    rw [hlocate] at h
    rw [Option.getD_some, Settings.load, locate_ne_nil hlocate, show Settings.ofFile s name = .ok file from h]
    rfl

/-- What a file gives is read from its attributes. -/
theorem givenBy_of_ofFile {name : Text} (h : Settings.ofFile s name = .ok file) :
    ∃ content items, s.contentAt? name = some content ∧ Hcl.parse? content = some items ∧
      Settings.GivenBy (Settings.bindings s) items file := by
  unfold Settings.ofFile at h
  split at h
  · cases h
  · rename_i items hitems
    obtain ⟨content, hcontent, hparse⟩ := Option.bind_eq_some_iff.mp hitems
    split at h
    · cases h
    · rename_i given hgiven
      split_ifs at h
      obtain rfl := Except.ok.inj h
      exact ⟨content, items, hcontent, hparse, Settings.givenBy_of_ofItems? hgiven⟩

/-- A positive depth in every layer makes the depth positive. -/
theorem Layered.one_le_maxDepth {env : List (Text × Text)} (h : Layered env o file settings) (ho : 1 ≤ o.maxDepth) :
    1 ≤ settings.maxDepth := by
  rw [h.maxDepth, uppermost_flag, uppermost_ifPositive]
  split_ifs with hflag hfile
  · exact ho
  · exact hfile
  · decide

/-- An analyzer takes a positive depth as it is. -/
theorem maxDepth_analyzerOf (dir : Text) (matcher : Matcher) (h : 1 ≤ settings.maxDepth) :
    ((analyzerOf s dir matcher settings).options.maxDepth : Int) = settings.maxDepth := by
  have hpositive : 0 < settings.maxDepth := h
  change ((if 0 < settings.maxDepth then settings.maxDepth.toNat else _ : Nat) : Int) = settings.maxDepth
  rw [if_pos hpositive]
  exact Int.toNat_of_nonneg (Int.le_of_lt hpositive)

/-- An accepted command line and a file that gives settings have settings to run with. Each field of them is
that of the uppermost layer that sets it, the file's fields are those that its attributes give, and the depth
is at least one, so the analyzer keeps to it. -/
theorem settings_layered (hargs : parse args = .options o)
    (hfile : FileLayer s (Settings.locate s o.config) file) :
    ∃ settings, Configured s args o settings ∧ Layered s.env o file settings ∧
      (∀ name, Settings.locate s o.config = some name →
        ∃ content items, s.contentAt? name = some content ∧ Hcl.parse? content = some items ∧
          Settings.GivenBy (Settings.bindings s) items file) ∧
      1 ≤ settings.maxDepth ∧
      ∀ dir matcher, ((analyzerOf s dir matcher settings).options.maxDepth : Int) = settings.maxDepth := by
  have hlayered := layered_overlay s.env o file
  obtain ⟨units, left, hholds⟩ := holds_of_parse hargs
  have hdepth := hlayered.one_le_maxDepth hholds.maxDepth_pos
  refine ⟨_, ⟨hargs, _, load_of_fileLayer hfile, rfl⟩, hlayered, fun name hname => ?_, hdepth,
    fun dir matcher => maxDepth_analyzerOf dir matcher hdepth⟩
  rw [hname] at hfile
  exact givenBy_of_ofFile hfile

/-- A site with a configuration file in its working directory and a log level in its environment. -/
def layeredSite : Site :=
  { tree := .directory [("playgraph.hcl", .file
      "max_depth = 9\nstats = true\nexclude = [\"a\"]\nlog \x7b\n  level = \"warn\"\n\x7d\n")]
    env := [("PLAYGRAPH_LOG_LEVEL", "error")] }

/-- The settings that the file gives. -/
def layeredFile : Settings :=
  { Settings.blank with maxDepth := 9, stats := true, exclude := ["a"], logLevel := "warn" }

/-- The options of a command line that turns the statistics off and lowers the depth. -/
def layeredOptions : Options :=
  { command := .playbook
    playbook := "x.yml"
    maxDepth := 3
    exclude := ["b"]
    given := ["max-depth", "stats", "exclude"] }

/-- Flags lie over the environment, and both over the file. -/
theorem settings_layered_lowered :
    parse ["p", "-max-depth", "3", "-stats=false", "-exclude", "b", "x.yml"] = .options layeredOptions ∧
      FileLayer layeredSite (Settings.locate layeredSite layeredOptions.config) layeredFile ∧
      ∃ settings, Configured layeredSite ["p", "-max-depth", "3", "-stats=false", "-exclude", "b", "x.yml"]
          layeredOptions settings ∧ Layered layeredSite.env layeredOptions layeredFile settings ∧
        settings.maxDepth = 3 ∧ settings.stats = false ∧ settings.exclude = ["a", "b"] ∧
        settings.logLevel = "error" := by
  have hargs : parse ["p", "-max-depth", "3", "-stats=false", "-exclude", "b", "x.yml"] = .options layeredOptions := by
    decide +kernel
  have hlocate : Settings.locate layeredSite layeredOptions.config = some Settings.defaultFile := by decide +kernel
  have hgiven : Settings.ofFile layeredSite Settings.defaultFile = .ok layeredFile := by decide +kernel
  have hfile := fileLayer_of_locate hlocate hgiven
  obtain ⟨settings, hconfigured, hlayered, -⟩ := settings_layered hargs hfile
  refine ⟨hargs, hfile, settings, hconfigured, hlayered, hlayered.maxDepth.trans ?_, hlayered.stats.trans ?_,
    hlayered.exclude.trans ?_, hlayered.logLevel.trans ?_⟩
  all_goals decide +kernel

end Command

end RoleGraph
