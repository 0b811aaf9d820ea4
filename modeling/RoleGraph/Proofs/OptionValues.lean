import RoleGraph.Command.Run
import RoleGraph.Proofs.ArgumentUse

/-!
# The values of options

A written flag has a name and a text for its value, and four names are short for others. Which setting
the flag makes depends only on the long name and the text, so a short name and its long one can stand
for each other. Settings are applied one after the other, and each changes the one option that it is
named for. Hence an option holds the last of the values that are written for it, under either name, and
the checks at the end say which values an accepted command line can have.
-/

namespace RoleGraph

namespace Command

/-! ## Written flags -/

/-- The short names, each with the long one that it stands for. -/
def shortNames : List (Text × Text) :=
  [("f", "file"), ("d", "dir"), ("r", "roles-dir"), ("o", "output-path")]

/-- The long name of a flag. -/
def longName (name : Text) : Text := (shortNames.lookup name).getD name

/-- The name and the value of a flag as it is written. A switch that stands alone is on. -/
def occurrence? : List Text → Option (Text × Text)
  | [arg] =>
    match Argument.of arg with
    | .flag name value => some (name, value.getD "true")
    | _ => none
  | [arg, value] =>
    match Argument.of arg with
    | .flag name none => some (name, value)
    | _ => none
  | _ => none

/-- The values that are written for an option, in order, whichever of its names is used. -/
def valuesOf (units : List (List Text)) (long : Text) : List Text :=
  units.filterMap fun unit =>
    (occurrence? unit).bind fun (name, value) => if longName name = long then some value else none

/-- What a text says about the value of a setting. -/
def Setting.WrittenAs : Setting → Text → Prop
  | .file v, t | .dir v, t | .rolesDir v, t | .outputPath v, t | .format v, t | .config v, t => v = t
  | .matcher v, t | .exclude v, t | .logLevel v, t | .logFormat v, t => v = t
  | .maxDepth n, t => Numeral.signed t = .ok n
  | .allRoles b, t | .stats b, t => switchValue? t = some b

/-- A written flag tells of a setting: it is named for it and writes its value. -/
def Tells (unit : List Text) (s : Setting) : Prop :=
  ∃ name value, occurrence? unit = some (name, value) ∧ s.name = longName name ∧ s.WrittenAs value

/-- A flag makes the setting that its long name and the text of its value tell of. -/
def Flag.Honest (f : Flag) : Prop :=
  ∀ value s, f.setting value = .ok s → s.name = longName f.name ∧ s.WrittenAs value

/-- A flag for a text is honest if the setting is. -/
theorem Flag.honest_text {name shown usage : Text} {make : Text → Setting}
    (h : ∀ value, (make value).name = longName name ∧ (make value).WrittenAs value) :
    Flag.Honest ⟨name, .text make shown, usage⟩ := by
  intro value s hs
  cases hs
  exact h value

/-- A flag for a switch is honest if the setting is. -/
theorem Flag.honest_switch {name usage : Text} {make : Bool → Setting}
    (h : ∀ value b, switchValue? value = some b → (make b).name = longName name ∧ (make b).WrittenAs value) :
    Flag.Honest ⟨name, .switch make, usage⟩ := by
  intro value s hs
  cases hvalue : switchValue? value with
  | none => simp [setting, hvalue] at hs
  | some b =>
    simp only [setting, hvalue, Except.ok.injEq] at hs
    exact hs ▸ h value b hvalue

/-- The flag for a number is honest. -/
theorem Flag.honest_maxDepth {shown : Int} {usage : Text} :
    Flag.Honest ⟨"max-depth", .number .maxDepth shown, usage⟩ := by
  intro value s hs
  cases hvalue : Numeral.signed value with
  | error e => simp [setting, hvalue] at hs
  | ok n =>
    simp only [setting, hvalue, Except.ok.injEq] at hs
    exact hs ▸ ⟨rfl, hvalue⟩

/-- The flag that can be repeated is honest. -/
theorem Flag.honest_exclude {usage : Text} : Flag.Honest ⟨"exclude", .repeated .exclude, usage⟩ := by
  intro value s hs
  cases hs
  exact ⟨rfl, rfl⟩

/-- The flags of each command are honest. -/
theorem honest_of_mem_flagsOf {task : Task} : ∀ f ∈ flagsOf task, f.Honest := by
  unfold flagsOf
  simp only [List.forall_mem_append, List.forall_mem_cons]
  refine ⟨⟨⟨⟨⟨?allRoles, ?config, ?_⟩, ?dirs⟩, ?exclude, ?_⟩, ?files⟩, ?format, ?logFormat, ?logLevel, ?matcher,
    ?maxDepth, ?o, ?outputPath, ?r, ?rolesDir, ?stats, ?_⟩
  case allRoles | stats => exact Flag.honest_switch fun _ _ h => ⟨rfl, h⟩
  case exclude => exact Flag.honest_exclude
  case maxDepth => exact Flag.honest_maxDepth
  case dirs =>
    cases task with
    | playbook => exact nofun
    | all =>
      simp only [List.forall_mem_cons]
      exact ⟨Flag.honest_text fun _ => ⟨rfl, rfl⟩, Flag.honest_text fun _ => ⟨rfl, rfl⟩, nofun⟩
  case files =>
    cases task with
    | playbook =>
      simp only [List.forall_mem_cons]
      exact ⟨Flag.honest_text fun _ => ⟨rfl, rfl⟩, Flag.honest_text fun _ => ⟨rfl, rfl⟩, nofun⟩
    | all => exact nofun
  case config | format | logFormat | logLevel | matcher | o | outputPath | r | rolesDir =>
    exact Flag.honest_text fun _ => ⟨rfl, rfl⟩
  all_goals exact nofun

/-- A written flag has a name and a value. -/
theorem occurrence?_of_written {flags : List Flag} {unit : List Text} {s : Setting} (h : Written flags unit s) :
    ∃ f value, occurrence? unit = some (f.name, value) ∧ f ∈ flags ∧ f.setting value = .ok s := by
  cases h with
  | @joined _ name value f _ harg hf hs =>
    obtain rfl : f.name = name := by simpa using List.find?_some hf
    exact ⟨f, value, by simp [occurrence?, harg], List.mem_of_find?_eq_some hf, hs⟩
  | @switch _ name f _ harg hf _ hs =>
    obtain rfl : f.name = name := by simpa using List.find?_some hf
    exact ⟨f, "true", by simp [occurrence?, harg], List.mem_of_find?_eq_some hf, hs⟩
  | @separate _ name value f _ harg hf _ hs =>
    obtain rfl : f.name = name := by simpa using List.find?_some hf
    exact ⟨f, value, by simp [occurrence?, harg], List.mem_of_find?_eq_some hf, hs⟩

/-- The written flags of a command tell of the settings that they make. -/
theorem tells_of_written {task : Task} {unit : List Text} {s : Setting} (h : Written (flagsOf task) unit s) :
    Tells unit s := by
  obtain ⟨f, value, hunit, hmem, hs⟩ := occurrence?_of_written h
  exact ⟨f.name, value, hunit, honest_of_mem_flagsOf f hmem value s hs⟩

/-! ## Settings one after the other -/

variable {units : List (List Text)} {settings : List Setting} {long : Text}

/-- A written flag adds its value to those of the option that it is named for. -/
theorem valuesOf_cons {unit : List Text} {name value : Text} (h : occurrence? unit = some (name, value)) :
    valuesOf (unit :: units) long =
      if longName name = long then value :: valuesOf units long else valuesOf units long := by
  rw [valuesOf, List.filterMap_cons, h]
  split_ifs with hname
  · simp [hname, valuesOf]
  · simp [hname, valuesOf]

/-- The settings that options show, but for the exclude patterns. -/
def Options.shown (o : Options) : List Setting :=
  [.file o.playbook, .dir o.dir, .rolesDir o.rolesDir, .outputPath o.outputPath, .format o.format, .config o.config,
    .maxDepth o.maxDepth, .allRoles o.allRoles, .stats o.stats, .matcher o.matcher, .logLevel o.logLevel,
    .logFormat o.logFormat]

/-- The names of the settings, each in the place of its kind. -/
def optionNames : List Text :=
  ["file", "dir", "roles-dir", "output-path", "format", "config", "max-depth", "all-roles", "stats", "match",
    "exclude", "log-level", "log-format"]

/-- The name of a setting stands in the place of its kind. -/
theorem optionNames_ctorIdx (s : Setting) : optionNames[s.ctorIdx]? = some s.name := by
  cases s <;> rfl

/-- No two kinds of settings have one name. -/
theorem nodup_optionNames : optionNames.Nodup := by decide +kernel

/-- Settings are of one kind exactly when they have one name. -/
theorem ctorIdx_eq_iff {s s' : Setting} : s.ctorIdx = s'.ctorIdx ↔ s.name = s'.name := by
  have hs := optionNames_ctorIdx s
  have hs' := optionNames_ctorIdx s'
  have hlength : s.ctorIdx < optionNames.length := (List.getElem?_eq_some_iff.mp hs).1
  rw [← List.getElem?_inj hlength nodup_optionNames, hs, hs', Option.some.injEq]

/-- A setting that is applied takes the place of the one of its kind. -/
theorem shown_apply (o : Options) (s : Setting) :
    (o.apply s).shown = o.shown.map fun s' => if s'.ctorIdx = s.ctorIdx then s else s' := by
  cases s <;> rfl

/-- After a setting is applied the options show it and the settings of other names. -/
theorem mem_shown_apply {o : Options} {s s' : Setting} (h : s' ∈ (o.apply s).shown) :
    s' = s ∨ s' ∈ o.shown ∧ s'.name ≠ s.name := by
  rw [shown_apply] at h
  obtain ⟨old, hold, rfl⟩ := List.mem_map.mp h
  split_ifs with hkind
  · exact Or.inl rfl
  · exact Or.inr ⟨hold, mt ctorIdx_eq_iff.mpr hkind⟩

/-- The options show the last setting of each name, written as its last value, or else what they showed
before. -/
theorem shown_foldl_apply (h : List.Forall₂ Tells units settings) (o : Options) (before : Text → Text)
    (hbefore : ∀ s ∈ o.shown, s.WrittenAs (before s.name)) :
    ∀ s ∈ (settings.foldl Options.apply o).shown, s.WrittenAs ((valuesOf units s.name).getLastD (before s.name)) := by
  induction h generalizing o before with
  | nil => exact hbefore
  | @cons unit s units settings hunit _ ih =>
    obtain ⟨name, value, hoccurrence, hname, hvalue⟩ := hunit
    have hnow : ∀ s' ∈ (o.apply s).shown, s'.WrittenAs (if s'.name = longName name then value else before s'.name) := by
      intro s' hs'
      rcases mem_shown_apply hs' with rfl | ⟨hold, hother⟩
      · rwa [if_pos hname]
      · rw [if_neg fun h => hother (h.trans hname.symm)]
        exact hbefore s' hold
    intro s' hs'
    have hlast := ih (o.apply s) (fun long => if long = longName name then value else before long) hnow s' hs'
    rw [valuesOf_cons hoccurrence]
    by_cases hsame : s'.name = longName name
    · rw [if_pos hsame.symm, List.getLastD_cons]
      rwa [if_pos hsame] at hlast
    · rw [if_neg (Ne.symm hsame)]
      rwa [if_neg hsame] at hlast

/-- Exclude patterns add up. -/
theorem exclude_foldl_apply (h : List.Forall₂ Tells units settings) (o : Options) :
    (settings.foldl Options.apply o).exclude = o.exclude ++ valuesOf units "exclude" := by
  induction h generalizing o with
  | nil => exact (List.append_nil _).symm
  | @cons unit s units settings hunit _ ih =>
    obtain ⟨name, value, hoccurrence, hname, hvalue⟩ := hunit
    rw [valuesOf_cons hoccurrence, List.foldl_cons, ih, ← hname]
    split_ifs with hexclude
    · have hkind : s.ctorIdx = (Setting.exclude value).ctorIdx := ctorIdx_eq_iff.mpr hexclude
      cases s with
      | exclude v =>
        obtain rfl : v = value := hvalue
        exact List.append_assoc _ _ _
      | _ => cases hkind
    · cases s with
      | exclude v => exact absurd rfl hexclude
      | _ => rfl

/-- The flags that were given are recorded by their long names. -/
theorem given_foldl_apply (settings : List Setting) (o : Options) :
    (settings.foldl Options.apply o).given = o.given ++ settings.map Setting.name := by
  induction settings generalizing o with
  | nil => exact (List.append_nil _).symm
  | cons s rest ih =>
    have hs : (o.apply s).given = o.given ++ [s.name] := by cases s <;> rfl
    rw [List.foldl_cons, ih, hs, List.append_assoc, List.map_cons, List.singleton_append]

/-- A setting has the name of an option exactly when a value is written for it. -/
theorem mem_names_iff (h : List.Forall₂ Tells units settings) :
    long ∈ settings.map Setting.name ↔ valuesOf units long ≠ [] := by
  induction h with
  | nil => simp [valuesOf]
  | @cons unit s units settings hunit _ ih =>
    obtain ⟨name, value, hoccurrence, hname, -⟩ := hunit
    rw [valuesOf_cons hoccurrence, List.map_cons, List.mem_cons, ih, hname]
    split_ifs with hlong
    · simp [hlong]
    · simp [Ne.symm hlong]

/-! ## Respelled flags -/

/-- A value behind a name, if there is one, with its equals sign. -/
def attached : Option Text → Text
  | none => []
  | some value => 0x3D :: value

/-- A name that a flag can have. -/
structure FlagName (name : Text) : Prop where
  ne_nil : name ≠ []
  no_hyphen : name.head? ≠ some 0x2D
  no_equals : 0x3D ∉ name

/-- Whether a text is the name of a flag is read off it. -/
instance (name : Text) : Decidable (FlagName name) :=
  decidable_of_iff (name ≠ [] ∧ name.head? ≠ some 0x2D ∧ 0x3D ∉ name)
    ⟨fun ⟨h, h', h''⟩ => ⟨h, h', h''⟩, fun h => ⟨h.ne_nil, h.no_hyphen, h.no_equals⟩⟩

/-- The name ends at the first equals sign. -/
theorem cut?_attached {name : Text} (h : 0x3D ∉ name) (value : Option Text) :
    Text.cut? 0x3D (name ++ attached value) = value.map (name, ·) := by
  cases value with
  | none => rw [attached, List.append_nil, Text.cut?_of_notMem h, Option.map_none]
  | some value => rw [attached, Text.cut?_append_cons h, Option.map_some]

/-- A name behind one or two hyphens, and perhaps a value behind it, is a flag. -/
theorem argument_of_spelled {hyphens name : Text} (hhyphens : hyphens = "-" ∨ hyphens = "--") (h : FlagName name)
    (value : Option Text) : Argument.of (hyphens ++ (name ++ attached value)) = .flag name value := by
  obtain ⟨b, rest, rfl⟩ := List.exists_cons_of_ne_nil h.ne_nil
  have hb : ¬ (b = 0x2D ∨ b = 0x3D) := by
    rintro (rfl | rfl)
    · exact h.no_hyphen rfl
    · exact h.no_equals List.mem_cons_self
  have hbody : Argument.ofBody (b :: rest ++ attached value) = .flag (b :: rest) value := by
    have hcut := cut?_attached (fun hmem => h.no_equals (List.mem_cons_of_mem b hmem)) value
    rw [List.cons_append, Argument.ofBody, if_neg hb, splitValue, hcut]
    cases value with
    | none => rw [attached, List.append_nil]; rfl
    | some v => rfl
  rw [← hbody]
  rcases hhyphens with rfl | rfl
  · change Argument.of (0x2D :: b :: (rest ++ attached value)) = _
    unfold Argument.of
    split
    · rename_i heq
      exact absurd (Or.inl (List.cons.inj (List.cons.inj heq).2).1) hb
    · rename_i heq
      exact absurd (Or.inl (List.cons.inj (List.cons.inj heq).2).1) hb
    · rename_i heq
      cases heq
    · rename_i heq
      rw [← (List.cons.inj heq).2]
      rfl
    · rename_i hother
      exact absurd rfl (hother _)
  · rfl

/-- The same flag with another of its names, in an argument on its own or in front of its value. -/
inductive Respelled : List Text → List Text → Prop
  /-- The flag is left as it is. -/
  | kept {unit : List Text} : Respelled unit unit
  /-- The long name stands for the short one. -/
  | lengthened {hyphens short long : Text} {value : Option Text} {more : List Text}
      (hhyphens : hyphens = "-" ∨ hyphens = "--") (hnames : (short, long) ∈ shortNames) :
      Respelled ((hyphens ++ (short ++ attached value)) :: more) ((hyphens ++ (long ++ attached value)) :: more)
  /-- The short name stands for the long one. -/
  | shortened {hyphens short long : Text} {value : Option Text} {more : List Text}
      (hhyphens : hyphens = "-" ∨ hyphens = "--") (hnames : (short, long) ∈ shortNames) :
      Respelled ((hyphens ++ (long ++ attached value)) :: more) ((hyphens ++ (short ++ attached value)) :: more)

/-- Both names of a pair are names of flags, and of flags of one kind. -/
theorem shortNames_pairs (task : Task) : ∀ names ∈ shortNames, FlagName names.1 ∧ FlagName names.2 ∧
    ((flagsOf task).find? (·.name == names.1)).map Flag.kind =
      ((flagsOf task).find? (·.name == names.2)).map Flag.kind := by
  simp only [shortNames, List.forall_mem_cons]
  cases task with
  | playbook =>
    exact ⟨⟨by decide, by decide, rfl⟩, ⟨by decide, by decide, rfl⟩, ⟨by decide, by decide, rfl⟩,
      ⟨by decide, by decide, rfl⟩, nofun⟩
  | all =>
    exact ⟨⟨by decide, by decide, rfl⟩, ⟨by decide, by decide, rfl⟩, ⟨by decide, by decide, rfl⟩,
      ⟨by decide, by decide, rfl⟩, nofun⟩

/-- Flags of one kind make the same settings. -/
theorem setting_of_kind {f f' : Flag} (hkind : f.kind = f'.kind) {value : Text} {s : Setting}
    (h : f.setting value = .ok s) : f'.setting value = .ok s := by
  unfold Flag.setting at h ⊢
  rw [← hkind]
  cases hf : f.kind with
  | text make shown => simpa only [hf] using h
  | repeated make => simpa only [hf] using h
  | number make shown =>
    simp only [hf] at h ⊢
    split at h
    · exact h
    · cases h
  | switch make =>
    simp only [hf] at h ⊢
    split at h
    · exact h
    · cases h

/-- A written flag can have any name of its kind. -/
theorem Written.renamed {flags : List Flag} {hyphens name name' : Text} {value : Option Text} {more : List Text}
    {s : Setting} (hhyphens : hyphens = "-" ∨ hyphens = "--") (hname : FlagName name) (hname' : FlagName name')
    (hkind : (flags.find? (·.name == name)).map Flag.kind = (flags.find? (·.name == name')).map Flag.kind)
    (h : Written flags ((hyphens ++ (name ++ attached value)) :: more) s) :
    Written flags ((hyphens ++ (name' ++ attached value)) :: more) s := by
  have hspelled := argument_of_spelled hhyphens hname value
  have hspelled' := argument_of_spelled hhyphens hname' value
  have hsame {f : Flag} (hf : flags.find? (·.name == name) = some f) :
      ∃ f', flags.find? (·.name == name') = some f' ∧ f.kind = f'.kind := by
    rw [hf, Option.map_some] at hkind
    obtain ⟨f', hf', hkind'⟩ := Option.map_eq_some_iff.mp hkind.symm
    exact ⟨f', hf', hkind'.symm⟩
  cases h with
  | joined harg hf hs =>
    obtain ⟨rfl, rfl⟩ := Argument.flag.inj (hspelled.symm.trans harg)
    obtain ⟨f', hf', hkind'⟩ := hsame hf
    exact .joined hspelled' hf' (setting_of_kind hkind' hs)
  | switch harg hf hswitch hs =>
    obtain ⟨rfl, rfl⟩ := Argument.flag.inj (hspelled.symm.trans harg)
    obtain ⟨f', hf', hkind'⟩ := hsame hf
    exact .switch hspelled' hf' (by rwa [Flag.isSwitch, ← hkind']) (setting_of_kind hkind' hs)
  | separate harg hf hswitch hs =>
    obtain ⟨rfl, rfl⟩ := Argument.flag.inj (hspelled.symm.trans harg)
    obtain ⟨f', hf', hkind'⟩ := hsame hf
    exact .separate hspelled' hf' (by rwa [Flag.isSwitch, ← hkind']) (setting_of_kind hkind' hs)

/-- A respelled flag makes the same setting. -/
theorem Respelled.written {task : Task} {unit unit' : List Text} {s : Setting} (h : Respelled unit unit')
    (hunit : Written (flagsOf task) unit s) : Written (flagsOf task) unit' s := by
  cases h with
  | kept => exact hunit
  | lengthened hhyphens hnames =>
    obtain ⟨hshort, hlong, hkind⟩ := shortNames_pairs task _ hnames
    exact hunit.renamed hhyphens hshort hlong hkind
  | shortened hhyphens hnames =>
    obtain ⟨hshort, hlong, hkind⟩ := shortNames_pairs task _ hnames
    exact hunit.renamed hhyphens hlong hshort hkind.symm

/-- Arguments with respelled flags are read with the same settings. -/
theorem Reads.respelled {task : Task} {args mark left : List Text} {units' : List (List Text)}
    (h : Reads (flagsOf task) args units settings mark left) (hunits : List.Forall₂ Respelled units units') :
    Reads (flagsOf task) (units'.flatten ++ (mark ++ left)) units' settings mark left := by
  refine ⟨?_, rfl, h.ended⟩
  have hwritten := h.written
  clear h
  induction hunits generalizing settings with
  | nil => exact hwritten
  | cons hunit _ ih =>
    cases hwritten with
    | cons hfirst hrest => exact .cons (hunit.written hfirst) (ih hrest)

/-! ## Accepted command lines -/

namespace Options

variable {o o' : Options} {left : List Text}

/-- Only the two targets differ when one of them is replaced. -/
theorem withTarget_eq (o : Options) (t : Text) :
    ∃ playbook dir, o.withTarget t = { o with playbook := playbook, dir := dir } := by
  unfold withTarget
  split
  · exact ⟨t, o.dir, rfl⟩
  · exact ⟨o.playbook, t, rfl⟩

/-- The target of the command that is not given. -/
def otherTarget (o : Options) : Text :=
  match o.command with
  | .playbook => o.dir
  | .all => o.playbook

/-- Replacing the target leaves the other one alone. -/
theorem otherTarget_withTarget (o : Options) (t : Text) : (o.withTarget t).otherTarget = o.otherTarget := by
  cases hcommand : o.command <;> simp [withTarget, otherTarget, hcommand]

/-- A target that the flags leave empty is the first argument behind them, if there is one. -/
theorem takeTarget_eq_ok (h : o.takeTarget left = .ok o') :
    o' = o.withTarget (if o.target = [] then left.headD [] else o.target) := by
  have hself : o.withTarget o.target = o := by
    unfold withTarget target
    split <;> rfl
  unfold takeTarget at h
  split at h
  · cases h
    split_ifs with htarget
    · rw [List.headD_nil, ← htarget, hself]
    · exact hself.symm
  · split_ifs at h with hempty
    cases h
    rw [if_pos (List.isEmpty_iff.mp hempty), List.headD_cons]

/-- What the checks establish. -/
theorem checked_of_validate (h : o.validate = .ok o') :
    o' = { o with logFormat := Text.lower o.logFormat, logLevel := Text.lower o.logLevel } ∧
      o'.logFormat ∈ ["text", "json"].map Text.ofString ∧
      o'.logLevel ∈ ["debug", "info", "warn", "error"].map Text.ofString ∧ 1 ≤ o'.maxDepth := by
  unfold validate at h
  split_ifs at h
  dsimp only at h
  split_ifs at h with hformat hlevel hdepth
  cases h
  refine ⟨rfl, ?_, ?_, Int.not_lt.mp hdepth⟩
  · simpa [Decidable.or_iff_not_imp_left] using hformat
  · simpa [Decidable.or_iff_not_imp_left] using hlevel

end Options

/-- The long name of the flag for the target of a command. -/
def Task.targetName : Task → Text
  | .playbook => "file"
  | .all => "dir"

/-- What the options of an accepted command line hold, with `units` the flags that are written and `left`
the arguments behind them. -/
structure Holds (units : List (List Text)) (left : List Text) (o : Options) : Prop where
  /-- A flag without a value to use leaves the target to the first argument behind the flags. -/
  target : o.target = if (valuesOf units o.command.targetName).getLastD [] = [] then left.headD []
    else (valuesOf units o.command.targetName).getLastD []
  target_ne_nil : o.target ≠ []
  otherTarget : o.otherTarget = []
  rolesDir : o.rolesDir = (valuesOf units "roles-dir").getLastD "./roles"
  outputPath : o.outputPath = (valuesOf units "output-path").getLastD "./ansible_graph.png"
  format : o.format = (valuesOf units "format").getLastD []
  config : o.config = (valuesOf units "config").getLastD []
  maxDepth : Numeral.signed ((valuesOf units "max-depth").getLastD "64") = .ok o.maxDepth
  maxDepth_pos : 1 ≤ o.maxDepth
  allRoles : switchValue? ((valuesOf units "all-roles").getLastD "false") = some o.allRoles
  stats : switchValue? ((valuesOf units "stats").getLastD "false") = some o.stats
  matcher : o.matcher = (valuesOf units "match").getLastD "suffix"
  exclude : o.exclude = valuesOf units "exclude"
  logLevel : o.logLevel = Text.lower ((valuesOf units "log-level").getLastD "info")
  logLevel_known : o.logLevel ∈ ["debug", "info", "warn", "error"].map Text.ofString
  logFormat : o.logFormat = Text.lower ((valuesOf units "log-format").getLastD "text")
  logFormat_known : o.logFormat ∈ ["text", "json"].map Text.ofString
  /-- A flag is recorded by its long name when it is written under any of its names. -/
  isSet : ∀ name, o.isSet name = true ↔ valuesOf units name ≠ []
  short_not_set : ∀ names ∈ shortNames, o.isSet names.1 = false

/-- The texts of the values that options have at first. -/
def defaultTexts : List (Text × Text) :=
  [("roles-dir", "./roles"), ("output-path", "./ansible_graph.png"), ("max-depth", "64"), ("all-roles", "false"),
    ("stats", "false"), ("match", "suffix"), ("log-level", "info"), ("log-format", "text")]

/-- The text of the value that an option has at first. -/
def defaultText (long : Text) : Text := (defaultTexts.lookup long).getD []

/-- Whether a text is the value of a setting can be found out. -/
instance (s : Setting) (t : Text) : Decidable (s.WrittenAs t) :=
  match s with
  | .file v | .dir v | .rolesDir v | .outputPath v | .format v | .config v => inferInstanceAs (Decidable (v = t))
  | .matcher v | .exclude v | .logLevel v | .logFormat v => inferInstanceAs (Decidable (v = t))
  | .maxDepth n => inferInstanceAs (Decidable (Numeral.signed t = .ok n))
  | .allRoles b | .stats b => inferInstanceAs (Decidable (switchValue? t = some b))

/-- The options of a command without flags show the defaults. -/
theorem shown_initial (task : Task) :
    ∀ s ∈ ({ command := task } : Options).shown, s.WrittenAs (defaultText s.name) := by
  cases task <;> decide +kernel

/-- No values are written for an option that no flag is named for. -/
theorem valuesOf_eq_nil {flags : List Flag} (h : List.Forall₂ (Written flags) units settings)
    (hflags : ∀ f ∈ flags, longName f.name ≠ long) : valuesOf units long = [] := by
  induction h with
  | nil => rfl
  | cons hunit _ ih =>
    obtain ⟨f, value, hoccurrence, hmem, -⟩ := occurrence?_of_written hunit
    rw [valuesOf_cons hoccurrence, if_neg (hflags f hmem), ih]

/-- A command has no flag for the target of the other one. -/
theorem longName_ne_targetName {task other : Task} (h : other ≠ task) :
    ∀ f ∈ flagsOf task, longName f.name ≠ other.targetName := by
  cases task <;> cases other
  · contradiction
  · decide +kernel
  · decide +kernel
  · contradiction

/-- A short name is never a long one. -/
theorem longName_ne_short (task : Task) :
    ∀ names ∈ shortNames, ∀ f ∈ flagsOf task, longName f.name ≠ names.1 := by
  cases task <;> decide +kernel

/-- The options of an accepted command line hold what is written. -/
theorem holds_of_checked {task : Task} {args left mark : List Text} {o : Options}
    (h : Reads (flagsOf task) args units settings mark left)
    (hchecked : ((settings.foldl Options.apply { command := task }).takeTarget left).bind Options.validate = .ok o) :
    o.command = task ∧ Holds units left o := by
  have htells := h.written.imp fun _ _ => tells_of_written
  have hcommand : (settings.foldl Options.apply { command := task }).command = task :=
    Options.command_foldl_apply settings _
  have hshown := shown_foldl_apply htells _ defaultText (shown_initial task)
  have hexclude := exclude_foldl_apply htells { command := task }
  have hset : ∀ name, (settings.foldl Options.apply { command := task }).isSet name = true ↔
      valuesOf units name ≠ [] := by
    intro name
    rw [Options.isSet, List.contains_iff_mem, given_foldl_apply, List.nil_append, mem_names_iff htells]
  generalize settings.foldl Options.apply { command := task } = made at hchecked hcommand hshown hexclude hset
  simp only [Options.shown, List.forall_mem_cons] at hshown
  obtain ⟨hplaybook, hdir, hrolesDir, houtputPath, hformat, hconfig, hmaxDepth, hallRoles, hstats, hmatcher, hlogLevel,
    hlogFormat, -⟩ := hshown
  -- The two targets that the flags leave, before the arguments behind them are looked at.
  have hmade : made.target = (valuesOf units task.targetName).getLastD [] := by
    cases task with
    | playbook =>
      rw [Options.target, hcommand]
      exact hplaybook
    | all =>
      rw [Options.target, hcommand]
      exact hdir
  have hmade_other : made.otherTarget = [] := by
    cases task with
    | playbook =>
      have hother : Task.all ≠ .playbook := by decide
      have hnone : valuesOf units "dir" = [] := valuesOf_eq_nil h.written (longName_ne_targetName hother)
      rw [Options.otherTarget, hcommand]
      exact hdir.trans (by rw [Setting.name, hnone]; rfl)
    | all =>
      have hother : Task.playbook ≠ .all := by decide
      have hnone : valuesOf units "file" = [] := valuesOf_eq_nil h.written (longName_ne_targetName hother)
      rw [Options.otherTarget, hcommand]
      exact hplaybook.trans (by rw [Setting.name, hnone]; rfl)
  cases htaken : made.takeTarget left with
  | error e =>
    rw [htaken] at hchecked
    cases hchecked
  | ok taken =>
    rw [htaken] at hchecked
    obtain ⟨-, hsame, htarget⟩ := Options.validate_eq_ok hchecked
    obtain ⟨ho, hformat_known, hlevel_known, hdepth⟩ := Options.checked_of_validate hchecked
    have htakes := Options.takeTarget_eq_ok htaken
    rw [hmade] at htakes
    have htarget_eq := (made.withTarget_command _).2.symm.trans (congrArg Options.target htakes.symm)
    have hother_eq := (congrArg Options.otherTarget htakes).trans (made.otherTarget_withTarget _)
    obtain ⟨playbook, dir, hwith⟩ := made.withTarget_eq _
    rw [hwith] at htakes
    subst htakes ho
    refine ⟨hcommand, ?_⟩
    exact
      { target := by rw [hsame, ← htarget_eq, hcommand]
        target_ne_nil := hsame ▸ htarget
        otherTarget := hother_eq.trans hmade_other
        rolesDir := hrolesDir
        outputPath := houtputPath
        format := hformat
        config := hconfig
        maxDepth := hmaxDepth
        maxDepth_pos := hdepth
        allRoles := hallRoles
        stats := hstats
        matcher := hmatcher
        exclude := hexclude
        logLevel := congrArg Text.lower hlogLevel
        logLevel_known := hlevel_known
        logFormat := congrArg Text.lower hlogFormat
        logFormat_known := hformat_known
        isSet := hset
        short_not_set := fun names hnames => by
          have hnone := valuesOf_eq_nil h.written (longName_ne_short task names hnames)
          exact Bool.eq_false_iff.mpr fun hshort => (hset names.1).mp hshort hnone }

/-- The options of an accepted command line hold what is written in it. -/
theorem holds_of_parse {args : List Text} {o : Options} (h : parse args = .options o) :
    ∃ units left, Holds units left o := by
  cases args with
  | nil => cases h
  | cons name rest =>
    obtain ⟨task, units, settings, mark, left, -, hreads, hchecked⟩ := reads_of_parse h
    exact ⟨units, left, (holds_of_checked hreads hchecked).2⟩

/-- The options of an accepted command line hold the last values that are written, under either name, and
writing other names for the same flags gives the same options. A refused command line ends a run as a
misuse. -/
theorem parse_lastWritten (args : List Text) :
    (∀ o, parse args = .options o → ∃ name rest, args = name :: rest ∧ Task.ofName? name = some o.command ∧
      (∃ units settings mark left, Reads (flagsOf o.command) rest units settings mark left) ∧
      ∀ units settings mark left, Reads (flagsOf o.command) rest units settings mark left →
        Holds units left o ∧ ∀ units', List.Forall₂ Respelled units units' →
          parse (name :: (units'.flatten ++ (mark ++ left))) = .options o) ∧
    ∀ cause output, parse args = .refused cause output →
      ∀ s, (run s args).failure = some (.usage cause) ∧ (run s args).code = 2 := by
  constructor
  · intro o h
    cases args with
    | nil => cases h
    | cons name rest =>
      obtain ⟨task, units, settings, mark, left, htask, hreads, hchecked⟩ := reads_of_parse h
      obtain ⟨rfl, -⟩ := holds_of_checked hreads hchecked
      refine ⟨name, rest, rfl, htask, ⟨units, settings, mark, left, hreads⟩, ?_⟩
      intro units' settings' mark' left' hreads'
      -- Flags are read in one way only, so the settings and what is left are the same.
      have hread := readFlags_eq_ok_iff.mpr ⟨units, mark, hreads⟩
      have hread' := readFlags_eq_ok_iff.mpr ⟨units', mark', hreads'⟩
      obtain ⟨rfl, rfl⟩ := Prod.mk.inj (Except.ok.inj (hread.symm.trans hread'))
      refine ⟨(holds_of_checked hreads' hchecked).2, fun respelled hrespelled => ?_⟩
      rw [parse_of_reads htask (hreads'.respelled hrespelled), hchecked]
  · intro cause output h s
    unfold run runOn
    rw [h]
    exact ⟨rfl, rfl⟩

/-- A command line with both names of a flag, a value that looks like a flag, a switch turned off again and
the target behind the flags. -/
def mixedLine : List Text :=
  ["A", "-r", "x", "-exclude", "-r", "--roles-dir=-o", "-log-level", "WARN", "--exclude=b", "-stats", "-stats=0", "-d",
    "", "--", "site"]

/-- The options of that command line. -/
def mixedOptions : Options :=
  { command := .all
    dir := "site"
    rolesDir := "-o"
    exclude := ["-r", "b"]
    logLevel := "warn"
    given := ["roles-dir", "exclude", "roles-dir", "log-level", "exclude", "stats", "stats", "dir"] }

/-- A command line with mixed flags holds the last values, and one without a target is a misuse. -/
theorem parse_lastWritten_mixed :
    (parse mixedLine = .options mixedOptions ∧ ∃ units settings mark left,
      Reads (flagsOf .all) mixedLine.tail units settings mark left ∧ Holds units left mixedOptions) ∧
    (parse ["p", "-r", "x"] = .refused (.noTarget .playbook) [] ∧
      ∀ s, (run s ["p", "-r", "x"]).failure = some (.usage (.noTarget .playbook)) ∧
        (run s ["p", "-r", "x"]).code = 2) := by
  have haccepted : parse mixedLine = .options mixedOptions := by decide +kernel
  have hrefused : parse ["p", "-r", "x"] = .refused (.noTarget .playbook) [] := by decide +kernel
  refine ⟨⟨haccepted, ?_⟩, hrefused, (parse_lastWritten _).2 _ _ hrefused⟩
  obtain ⟨name, rest, hline, -, ⟨units, settings, mark, left, hreads⟩, hholds⟩ :=
    (parse_lastWritten mixedLine).1 mixedOptions haccepted
  obtain ⟨rfl, rfl⟩ := List.cons.inj hline
  exact ⟨units, settings, mark, left, hreads, (hholds units settings mark left hreads).1⟩

end Command

end RoleGraph
