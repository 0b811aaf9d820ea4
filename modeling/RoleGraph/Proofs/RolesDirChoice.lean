import RoleGraph.Proofs.ProjectRoot
import RoleGraph.Proofs.SettingLayers

/-!
# The choice of the roles directory

The roles directory of the project that a target belongs to stands in for the built-in one, but only when
nothing sets a roles directory and the built-in one is not there. Whether it was set is told from its
value, so a configuration file that sets the built-in value is taken for one that sets nothing. That is
the only case in which a directory that was set is overruled.
-/

namespace RoleGraph

/-- The path of the roles directory of a project starts at the root. -/
theorem Project.rolesDir_rooted {s : Site} {target dir : Text} {p : Project} (h : detect s target = .ok p)
    (hdir : p.rolesDir = some dir) : Location.isRooted dir := by
  obtain ⟨_, _, root, -, -, -, -, -, hrolesDir⟩ := detect_inv h
  rw [hrolesDir] at hdir
  obtain ⟨-, hpath⟩ := Option.ite_none_right_eq_some.mp hdir
  rw [← Option.some.inj hpath]
  rfl

namespace Command

variable {s : Site} {args : List Text} {o : Options} {file settings : Settings}

/-- The built-in roles directory. -/
def builtinRolesDir : Text := "./roles"

/-- The roles directory of the project that a target belongs to, if there is one. -/
def projectRolesDir? (s : Site) (target : Text) : Option Text :=
  match Project.detect s target with
  | .ok p => p.rolesDir
  | .error _ => none

/-- The roles directory of a run as it is set: by the flag, or else by the configuration file, or else by
what is there. -/
def wantedRolesDir (s : Site) (o : Options) (file : Settings) : Text :=
  if o.isSet "roles-dir" then o.rolesDir
  else if file.rolesDir ≠ [] then file.rolesDir
  else if s.isDirectory (Location.absolute s.cwd builtinRolesDir) then builtinRolesDir
  else (projectRolesDir? s o.target).getD builtinRolesDir

/-- A project overrules the configuration file: the file sets the built-in roles directory, and no flag sets
another; this directory is not there, but that of the project is. -/
structure Overruled (s : Site) (o : Options) (file : Settings) : Prop where
  no_flag : o.isSet "roles-dir" = false
  builtin_set : file.rolesDir = builtinRolesDir
  not_there : s.isDirectory (Location.absolute s.cwd builtinRolesDir) = false
  project : (projectRolesDir? s o.target).isSome

/-- The directory of a project is not the built-in one. -/
theorem projectRolesDir_ne_builtin {dir : Text} (h : projectRolesDir? s o.target = some dir) :
    dir ≠ builtinRolesDir := by
  unfold projectRolesDir? at h
  split at h
  · rename_i p hdetect
    have hrooted := Project.rolesDir_rooted hdetect h
    rintro rfl
    cases hrooted
  · cases h

/-- The directory of the project stands in for the built-in one when no flag is given and the built-in one
is not there. Any other directory is kept. -/
theorem rolesDirOf_eq (s : Site) (o : Options) (settings : Settings) :
    rolesDirOf s o settings =
      if o.isSet "roles-dir" = false ∧ settings.rolesDir = builtinRolesDir ∧
        s.isDirectory (Location.absolute s.cwd builtinRolesDir) = false
      then (projectRolesDir? s o.target).getD builtinRolesDir else settings.rolesDir := by
  have hsame : Settings.builtin.rolesDir = builtinRolesDir := rfl
  unfold rolesDirOf substitute?
  rw [hsame]
  by_cases hflag : o.isSet "roles-dir" = true
  · rw [if_pos hflag, if_neg fun h => Bool.false_ne_true (h.1.symm.trans hflag)]
  rw [if_neg hflag]
  by_cases hbuiltin : settings.rolesDir = builtinRolesDir
  · rw [if_neg (not_not.mpr hbuiltin), hbuiltin]
    by_cases hthere : s.isDirectory (Location.absolute s.cwd builtinRolesDir) = true
    · rw [if_pos hthere, if_neg fun h => Bool.false_ne_true (h.2.2.symm.trans hthere)]
    · rw [if_neg hthere, if_pos ⟨Bool.eq_false_iff.mpr hflag, rfl, Bool.eq_false_iff.mpr hthere⟩, projectRolesDir?]
      cases Project.detect s o.target with
      | error e => rfl
      | ok p =>
        dsimp only
        cases p.rolesDir <;> rfl
  · rw [if_pos hbuiltin, if_neg fun h => hbuiltin h.2.1]

/-- The roles directory of the settings is that of the flag, or else of the file, or else the built-in one. -/
theorem Layered.rolesDir_eq {env : List (Text × Text)} (h : Layered env o file settings) :
    settings.rolesDir = if o.isSet "roles-dir" then o.rolesDir
      else if file.rolesDir = [] then builtinRolesDir else file.rolesDir := by
  rw [h.rolesDir, uppermost_flag, uppermost_unlessEmpty, Settings.pick]
  simp only [List.isEmpty_iff]
  rfl

/-- A file that is overruled sets the built-in directory. -/
theorem Overruled.wanted (h : Overruled s o file) : wantedRolesDir s o file = builtinRolesDir := by
  rw [wantedRolesDir, h.no_flag, if_neg Bool.false_ne_true, h.builtin_set, if_pos (by decide)]

/-- A file that is overruled gets the directory of the project. -/
theorem Overruled.rolesDirOf {env : List (Text × Text)} (h : Overruled s o file)
    (hlayered : Layered env o file settings) : projectRolesDir? s o.target = some (rolesDirOf s o settings) := by
  have hdir : settings.rolesDir = builtinRolesDir := by
    rw [hlayered.rolesDir_eq, h.no_flag, if_neg Bool.false_ne_true, h.builtin_set, if_neg (by decide)]
  obtain ⟨dir, hproject⟩ := Option.isSome_iff_exists.mp h.project
  rw [rolesDirOf_eq, if_pos ⟨h.no_flag, hdir, h.not_there⟩, hproject, Option.getD_some]

/-- What is set for a run is kept unless the file is overruled. -/
theorem rolesDirOf_eq_wanted {env : List (Text × Text)} (hlayered : Layered env o file settings)
    (hkept : ¬ Overruled s o file) : rolesDirOf s o settings = wantedRolesDir s o file := by
  rw [rolesDirOf_eq, hlayered.rolesDir_eq, wantedRolesDir]
  by_cases hflag : o.isSet "roles-dir" = true
  · -- A flag is kept.
    rw [if_pos hflag, if_pos hflag, if_neg fun h => Bool.false_ne_true (h.1.symm.trans hflag)]
  rw [if_neg hflag, if_neg hflag]
  have hflag : o.isSet "roles-dir" = false := Bool.eq_false_iff.mpr hflag
  by_cases hunset : file.rolesDir = []
  · -- With nothing set it depends on what is there.
    rw [if_pos hunset, if_neg (not_not.mpr hunset)]
    by_cases hthere : s.isDirectory (Location.absolute s.cwd builtinRolesDir) = true
    · rw [if_pos hthere, if_neg fun h => Bool.false_ne_true (h.2.2.symm.trans hthere)]
    · rw [if_neg hthere, if_pos ⟨hflag, rfl, Bool.eq_false_iff.mpr hthere⟩]
  · -- A directory that the file sets is kept, and so is the built-in one where there is no project.
    rw [if_neg hunset, if_pos hunset]
    split_ifs with hsubstituted
    · obtain ⟨-, hbuiltin, hnot⟩ := hsubstituted
      have hproject : projectRolesDir? s o.target = none :=
        Option.not_isSome_iff_eq_none.mp fun h => hkept ⟨hflag, hbuiltin, hnot, h⟩
      rw [hproject, hbuiltin]
      rfl
    · rfl

/-- A run uses the roles directory that is set for it, but for one case: a configuration file that sets the
built-in directory is overruled by a project, where the directory is not there. -/
theorem rolesDirOf_eq_wanted_iff (hargs : parse args = .options o)
    (hfile : FileLayer s (Settings.locate s o.config) file) :
    ∃ settings, Configured s args o settings ∧
      (rolesDirOf s o settings = wantedRolesDir s o file ↔ ¬ Overruled s o file) ∧
      (Overruled s o file → projectRolesDir? s o.target = some (rolesDirOf s o settings)) := by
  have hlayered := layered_overlay s.env o file
  refine ⟨_, ⟨hargs, _, load_of_fileLayer hfile, rfl⟩, ⟨fun heq hoverruled => ?_, rolesDirOf_eq_wanted hlayered⟩,
    fun hoverruled => hoverruled.rolesDirOf hlayered⟩
  exact projectRolesDir_ne_builtin (hoverruled.rolesDirOf hlayered) (heq.trans hoverruled.wanted)

/-- A site whose configuration file sets a roles directory that is not there, with a project that has one. -/
def projectSite (dir : Text) : Site :=
  { tree := .directory
      [("playgraph.hcl", .file ("roles_dir = \"" ++ dir ++ "\"\n")),
        ("infra", .directory [("roles", .directory []), ("site.yml", .file [])])] }

/-- The command line of a run on the playbook of the project. -/
def projectArgs : List Text := ["p", "infra/site.yml"]

/-- The options of that command line. -/
def projectOptions : Options := { command := .playbook, playbook := "infra/site.yml" }

/-- The settings that the configuration file gives. -/
def projectFile (dir : Text) : Settings := { Settings.blank with rolesDir := dir }

/-- A directory that is not the built-in one is kept, though it is not there and that of the project is. -/
theorem rolesDirOf_eq_wanted_iff_kept :
    parse projectArgs = .options projectOptions ∧
      FileLayer (projectSite "shared") (Settings.locate (projectSite "shared") projectOptions.config)
        (projectFile "shared") ∧
      projectRolesDir? (projectSite "shared") projectOptions.target = some "/infra/roles" ∧
      ∃ settings, Configured (projectSite "shared") projectArgs projectOptions settings ∧
        rolesDirOf (projectSite "shared") projectOptions settings = "shared" := by
  have hargs : parse projectArgs = .options projectOptions := by decide +kernel
  have hlocate : Settings.locate (projectSite "shared") projectOptions.config = some Settings.defaultFile := by
    decide +kernel
  have hgiven : Settings.ofFile (projectSite "shared") Settings.defaultFile = .ok (projectFile "shared") := by
    decide +kernel
  have hfile := fileLayer_of_locate hlocate hgiven
  obtain ⟨settings, hconfigured, hkept, -⟩ := rolesDirOf_eq_wanted_iff hargs hfile
  have hwanted : wantedRolesDir (projectSite "shared") projectOptions (projectFile "shared") = "shared" := by
    decide +kernel
  refine ⟨hargs, hfile, by decide +kernel, settings, hconfigured, (hkept.mpr ?_).trans hwanted⟩
  exact fun hoverruled => absurd hoverruled.builtin_set (by decide +kernel)

/-- The built-in directory is not kept, though the configuration file sets it. -/
theorem rolesDirOf_overruled :
    parse projectArgs = .options projectOptions ∧
      FileLayer (projectSite "./roles") (Settings.locate (projectSite "./roles") projectOptions.config)
        (projectFile "./roles") ∧
      ∃ settings, Configured (projectSite "./roles") projectArgs projectOptions settings ∧
        wantedRolesDir (projectSite "./roles") projectOptions (projectFile "./roles") = "./roles" ∧
        rolesDirOf (projectSite "./roles") projectOptions settings = "/infra/roles" ∧
        rolesDirOf (projectSite "./roles") projectOptions settings ≠
          wantedRolesDir (projectSite "./roles") projectOptions (projectFile "./roles") := by
  have hargs : parse projectArgs = .options projectOptions := by decide +kernel
  have hlocate : Settings.locate (projectSite "./roles") projectOptions.config = some Settings.defaultFile := by
    decide +kernel
  have hgiven : Settings.ofFile (projectSite "./roles") Settings.defaultFile = .ok (projectFile "./roles") := by
    decide +kernel
  have hfile := fileLayer_of_locate hlocate hgiven
  have hproject : projectRolesDir? (projectSite "./roles") projectOptions.target = some "/infra/roles" := by
    decide +kernel
  have hoverruled : Overruled (projectSite "./roles") projectOptions (projectFile "./roles") :=
    ⟨by decide +kernel, rfl, by decide +kernel, Option.isSome_of_eq_some hproject⟩
  have hlayered := layered_overlay (projectSite "./roles").env projectOptions (projectFile "./roles")
  have hused := hoverruled.rolesDirOf hlayered
  have hdir := Option.some.inj (hused.symm.trans hproject)
  refine ⟨hargs, hfile, _, ⟨hargs, _, load_of_fileLayer hfile, rfl⟩, hoverruled.wanted, hdir, ?_⟩
  exact fun heq => projectRolesDir_ne_builtin hused (heq.trans hoverruled.wanted)

end Command

end RoleGraph
