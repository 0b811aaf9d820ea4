import Mathlib.Data.List.Forall2
import RoleGraph.Command.Options

/-!
# The use of arguments

Reading flags cuts a command line into the flags as they are written, each with its setting, at most one
mark that ends them, and what is left. The target is the first argument that is left, unless a flag
gave it, and then nothing may be left. But the arguments behind the target are never looked at: any
others in their place give the same options. So an accepted command line uses all of its arguments
exactly when at most one is left by the flags.
-/

namespace RoleGraph

namespace Command

/-- How a flag is written, and the setting that it makes. -/
inductive Written (flags : List Flag) : List Text → Setting → Prop
  /-- The value stands behind an equals sign. -/
  | joined {arg name value : Text} {f : Flag} {s : Setting} (harg : Argument.of arg = .flag name (some value))
      (hf : flags.find? (·.name == name) = some f) (hs : f.setting value = .ok s) : Written flags [arg] s
  /-- A switch that needs no value. -/
  | switch {arg name : Text} {f : Flag} {s : Setting} (harg : Argument.of arg = .flag name none)
      (hf : flags.find? (·.name == name) = some f) (hswitch : f.isSwitch = true)
      (hs : f.setting "true" = .ok s) : Written flags [arg] s
  /-- The value is the next argument. -/
  | separate {arg name value : Text} {f : Flag} {s : Setting} (harg : Argument.of arg = .flag name none)
      (hf : flags.find? (·.name == name) = some f) (hswitch : f.isSwitch = false)
      (hs : f.setting value = .ok s) : Written flags [arg, value] s

/-- The mark that ends the flags. -/
def endMark : Text := "--"

/-- Arguments are some written flags, at most one mark and what is left. Without the mark no flag is left
in front. -/
structure Reads (flags : List Flag) (args : List Text) (units : List (List Text)) (settings : List Setting)
    (mark left : List Text) : Prop where
  written : List.Forall₂ (Written flags) units settings
  args_eq : args = units.flatten ++ (mark ++ left)
  ended : mark = [endMark] ∨ mark = [] ∧ ∀ arg ∈ left.head?, Argument.of arg = .other

variable {flags : List Flag} {args left : List Text} {settings : List Setting}

/-- An argument with a body behind its hyphens does not end the flags. -/
theorem ofBody_ne_terminator (body : Text) : Argument.ofBody body ≠ .terminator := by
  cases body with
  | nil => exact nofun
  | cons b rest =>
    unfold Argument.ofBody
    dsimp only
    split_ifs
    · exact nofun
    · exact nofun

/-- An argument that ends the flags is the mark. -/
theorem eq_endMark {arg : Text} (h : Argument.of arg = .terminator) : arg = endMark := by
  unfold Argument.of at h
  split at h
  · rfl
  · exact absurd h (ofBody_ne_terminator _)
  · cases h
  · exact absurd h (ofBody_ne_terminator _)
  · cases h

/-- A written flag is read before what follows it. -/
theorem Written.readFlags {unit : List Text} {s : Setting} (h : Written flags unit s) (rest : List Text) :
    readFlags flags (unit ++ rest) = (readFlags flags rest).map fun (ss, left) => (s :: ss, left) := by
  cases h with
  | joined harg hf hs =>
    rw [List.singleton_append, Command.readFlags]
    simp only [harg, hf, hs]
    rfl
  | switch harg hf hswitch hs =>
    rw [List.singleton_append, Command.readFlags]
    simp only [harg, hf, hswitch, if_true, hs]
    rfl
  | separate harg hf hswitch hs =>
    rw [List.cons_append, List.singleton_append, Command.readFlags]
    simp only [harg, hf, hswitch, hs]
    rfl

/-- Flags that are written are read before what follows them. -/
theorem readFlags_written {units : List (List Text)} (h : List.Forall₂ (Written flags) units settings)
    (rest : List Text) :
    readFlags flags (units.flatten ++ rest) =
      (readFlags flags rest).map fun (ss, left) => (settings ++ ss, left) := by
  induction h with
  | nil =>
    rw [List.flatten_nil, List.nil_append]
    cases readFlags flags rest <;> rfl
  | cons hunit _ ih =>
    rw [List.flatten_cons, List.append_assoc, hunit.readFlags, ih]
    cases readFlags flags rest <;> rfl

/-- One more written flag in front. -/
theorem Reads.cons {unit : List Text} {s : Setting} {units : List (List Text)} {mark : List Text}
    (hunit : Written flags unit s) (h : Reads flags args units settings mark left) :
    Reads flags (unit ++ args) (unit :: units) (s :: settings) mark left :=
  ⟨.cons hunit h.written, by rw [h.args_eq, List.flatten_cons, List.append_assoc], h.ended⟩

/-- With other arguments left, the same flags are read. -/
theorem Reads.withLeft {units : List (List Text)} {mark : List Text} (h : Reads flags args units settings mark left)
    {left' : List Text} (hleft : mark = [] → ∀ arg ∈ left'.head?, Argument.of arg = .other) :
    Reads flags (units.flatten ++ (mark ++ left')) units settings mark left' :=
  ⟨h.written, rfl, h.ended.imp_right fun hmark => ⟨hmark.1, hleft hmark.1⟩⟩

/-- A setting was made and the rest was read. -/
theorem eq_ok_of_setting {made : Except FlagError Setting} {more : Except FlagError (List Setting × List Text)}
    (h : (do let s ← made; let (ss, left) ← more; return (s :: ss, left)) = .ok (settings, left)) :
    ∃ s ss, made = .ok s ∧ more = .ok (ss, left) ∧ settings = s :: ss := by
  cases made with
  | error e => cases h
  | ok s =>
    cases more with
    | error e => cases h
    | ok found =>
      obtain ⟨ss, left'⟩ := found
      cases h
      exact ⟨s, ss, rfl, rfl, rfl⟩

/-- Reading finds the flags that are written and what is left, and nothing else. -/
theorem readFlags_eq_ok_iff :
    readFlags flags args = .ok (settings, left) ↔ ∃ units mark, Reads flags args units settings mark left := by
  constructor
  · intro h
    fun_induction readFlags flags args generalizing settings left with
    | case1 =>
      cases h
      exact ⟨[], [], .nil, rfl, Or.inr ⟨rfl, nofun⟩⟩
    | case2 arg rest harg =>
      cases h
      exact ⟨[], [], .nil, rfl, Or.inr ⟨rfl, fun _ h => Option.some.inj h ▸ harg⟩⟩
    | case3 arg rest harg =>
      cases h
      exact ⟨[], [arg], .nil, rfl, Or.inl (by rw [eq_endMark harg])⟩
    | case4 | case5 | case8 => cases h
    | case6 arg rest name f hf value harg ih =>
      obtain ⟨s, ss, hs, hmore, rfl⟩ := eq_ok_of_setting h
      obtain ⟨units, mark, hreads⟩ := ih hmore
      exact ⟨_, mark, hreads.cons (.joined harg hf hs)⟩
    | case7 arg rest name f hf hswitch harg ih =>
      obtain ⟨s, ss, hs, hmore, rfl⟩ := eq_ok_of_setting h
      obtain ⟨units, mark, hreads⟩ := ih hmore
      exact ⟨_, mark, hreads.cons (.switch harg hf hswitch hs)⟩
    | case9 arg name f hf hswitch value rest harg ih =>
      obtain ⟨s, ss, hs, hmore, rfl⟩ := eq_ok_of_setting h
      obtain ⟨units, mark, hreads⟩ := ih hmore
      exact ⟨_, mark, hreads.cons (.separate harg hf (by simpa using hswitch) hs)⟩
  · rintro ⟨units, mark, hwritten, rfl, hended⟩
    have hleft : readFlags flags (mark ++ left) = .ok ([], left) := by
      rcases hended with rfl | ⟨rfl, hother⟩
      · rw [List.singleton_append, readFlags]
        rfl
      · cases left with
        | nil => rfl
        | cons arg rest =>
          rw [List.nil_append, readFlags]
          simp only [hother arg rfl]
    rw [readFlags_written hwritten, hleft]
    simp [Except.map]

namespace Options

variable {o o' : Options} {t : Text}

/-- A setting keeps the command. -/
theorem command_apply (o : Options) (s : Setting) : (o.apply s).command = o.command := by
  cases s <;> rfl

/-- Settings keep the command. -/
theorem command_foldl_apply (settings : List Setting) (o : Options) :
    (settings.foldl apply o).command = o.command := by
  induction settings generalizing o with
  | nil => rfl
  | cons s rest ih => rw [List.foldl_cons, ih, command_apply]

/-- The target that was put in is the target. -/
theorem withTarget_command (o : Options) (t : Text) : (o.withTarget t).command = o.command ∧
    (o.withTarget t).target = t := by
  cases hcommand : o.command <;> simp [withTarget, target, hcommand]

/-- Checked options have the same command and the same target, which is not empty. -/
theorem validate_eq_ok (h : o.validate = .ok o') :
    o'.command = o.command ∧ o'.target = o.target ∧ o.target ≠ [] := by
  unfold validate at h
  split_ifs at h with htarget
  have htarget : o.target ≠ [] := by simpa using htarget
  dsimp only at h
  split_ifs at h
  cases h
  exact ⟨rfl, rfl, htarget⟩

end Options

/-- What comes of a command line whose flags can be read. -/
theorem parse_of_reads {name : Text} {task : Task} {units : List (List Text)} {mark : List Text}
    (htask : Task.ofName? name = some task) (h : Reads (flagsOf task) args units settings mark left) :
    parse (name :: args) =
      match ((settings.foldl Options.apply { command := task }).takeTarget left).bind Options.validate with
      | .error e => .refused e []
      | .ok o => .options o := by
  have hread := readFlags_eq_ok_iff.mpr ⟨units, mark, h⟩
  cases hchecked : ((settings.foldl Options.apply { command := task }).takeTarget left).bind Options.validate with
  | error e => simp only [parse, htask, hread, hchecked]
  | ok o => simp only [parse, htask, hread, hchecked]

/-- An accepted command line names a command, and its flags can be read. -/
theorem reads_of_parse {name : Text} {o : Options} (h : parse (name :: args) = .options o) :
    ∃ task units settings mark left, Task.ofName? name = some task ∧
      Reads (flagsOf task) args units settings mark left ∧
      ((settings.foldl Options.apply { command := task }).takeTarget left).bind Options.validate = .ok o := by
  cases htask : Task.ofName? name with
  | none =>
    simp only [parse, htask] at h
    split_ifs at h
  | some task =>
    cases hread : readFlags (flagsOf task) args with
    | error e => cases e <;> simp only [parse, htask, hread, reduceCtorEq] at h
    | ok found =>
      obtain ⟨settings, left⟩ := found
      obtain ⟨units, mark, hreads⟩ := readFlags_eq_ok_iff.mp hread
      rw [parse_of_reads htask hreads] at h
      refine ⟨task, units, settings, mark, left, rfl, hreads, ?_⟩
      generalize ((settings.foldl Options.apply { command := task }).takeTarget left).bind Options.validate =
        checked at h ⊢
      cases checked with
      | error e => cases h
      | ok o' => rw [Parsed.options.inj h]

/-- Every argument is one of a written flag, the mark that ends the flags, or the target. -/
def UsesEvery (args : List Text) (o : Options) : Prop :=
  ∃ units settings mark left, Reads (flagsOf o.command) args units settings mark left ∧
    (left = [] ∨ left = [o.target])

/-- Where the first argument that is left is the target, all arguments are used exactly when it is the
only one that is left. -/
theorem usesEvery_iff {o : Options} {units : List (List Text)} {mark : List Text}
    (h : Reads (flagsOf o.command) args units settings mark left) (htarget : ∀ arg ∈ left.head?, arg = o.target) :
    UsesEvery args o ↔ left.length ≤ 1 := by
  constructor
  · rintro ⟨units', settings', mark', left', h', hleft⟩
    -- The flags are read in one way only, so the same is left.
    have hread := readFlags_eq_ok_iff.mpr ⟨units, mark, h⟩
    have hread' := readFlags_eq_ok_iff.mpr ⟨units', mark', h'⟩
    obtain ⟨-, rfl⟩ := Prod.mk.inj (Except.ok.inj (hread.symm.trans hread'))
    rcases hleft with hleft | hleft <;> simp [hleft]
  · intro hlength
    refine ⟨units, settings, mark, left, h, ?_⟩
    match left with
    | [] => exact Or.inl rfl
    | [arg] => exact Or.inr (by rw [htarget arg rfl])

/-- An accepted command line uses all of its arguments exactly when its flags leave at most one. If they
leave some, the first is the target and the others could be any. If they leave none, then a flag gave
the target, and arguments that were left would be refused. -/
theorem parse_usesEvery_iff {name : Text} {o : Options} (h : parse (name :: args) = .options o) :
    ∃ units settings mark left, Reads (flagsOf o.command) args units settings mark left ∧
      (UsesEvery args o ↔ left.length ≤ 1) ∧
      (∀ target ignored, left = target :: ignored → o.target = target ∧
        ∀ others, parse (name :: (units.flatten ++ (mark ++ target :: others))) = .options o) ∧
      (left = [] → ∀ arg more, (mark = [] → Argument.of arg = .other) →
        parse (name :: (units.flatten ++ (mark ++ arg :: more))) = .refused (.unexpected (arg :: more)) []) := by
  obtain ⟨task, units, settings, mark, left, htask, hreads, hchecked⟩ := reads_of_parse h
  have hcommand : (settings.foldl Options.apply { command := task }).command = task :=
    Options.command_foldl_apply settings _
  cases left with
  | nil =>
    obtain ⟨hsame, -, htarget⟩ := Options.validate_eq_ok hchecked
    rw [hcommand] at hsame
    have hreads' : Reads (flagsOf o.command) args units settings mark [] := hsame ▸ hreads
    refine ⟨units, settings, mark, [], hreads', usesEvery_iff hreads' nofun, nofun, fun _ arg more harg => ?_⟩
    have hmore : Reads (flagsOf task) _ units settings mark (arg :: more) :=
      hreads.withLeft fun hmark _ heq => Option.some.inj heq ▸ harg hmark
    rw [parse_of_reads htask hmore, Options.takeTarget, if_neg (by simpa using htarget)]
    rfl
  | cons target ignored =>
    by_cases hnone : (settings.foldl Options.apply { command := task }).target.isEmpty
    · rw [Options.takeTarget, if_pos hnone] at hchecked
      obtain ⟨hsame, htarget, -⟩ := Options.validate_eq_ok hchecked
      rw [(Options.withTarget_command _ target).1, hcommand] at hsame
      rw [(Options.withTarget_command _ target).2] at htarget
      have hreads' : Reads (flagsOf o.command) args units settings mark (target :: ignored) := hsame ▸ hreads
      have hfirst : ∀ arg ∈ (target :: ignored).head?, arg = o.target := fun arg heq =>
        (Option.some.inj heq).symm.trans htarget.symm
      refine ⟨units, settings, mark, target :: ignored, hreads', usesEvery_iff hreads' hfirst, ?_, nofun⟩
      rintro _ _ ⟨⟩
      refine ⟨htarget, fun others => ?_⟩
      have hothers : Reads (flagsOf task) _ units settings mark (target :: others) :=
        hreads.withLeft fun hmark arg heq => (hreads.ended.resolve_left (by simp [hmark])).2 arg heq
      rw [parse_of_reads htask hothers, Options.takeTarget, if_pos hnone, hchecked]
    · -- A target that is given twice is refused.
      rw [Options.takeTarget, if_neg hnone] at hchecked
      cases hchecked

deriving instance DecidableEq for Parsed

/-- The options of a command line that asks for the statistics of the directory it is given in. -/
def statsHere : Options := { command := .all, dir := ".", stats := true, given := ["stats"] }

/-- A target with two arguments behind it is accepted, and they could be any. -/
theorem parse_usesEvery_iff_ignored :
    parse ["all", "-stats", ".", "-r", "x"] = .options statsHere ∧
      ∃ units settings mark left, Reads (flagsOf .all) ["-stats", ".", "-r", "x"] units settings mark left ∧
        (UsesEvery ["-stats", ".", "-r", "x"] statsHere ↔ left.length ≤ 1) ∧
        (∀ target ignored, left = target :: ignored → "." = target ∧
          ∀ others, parse ("all" :: (units.flatten ++ (mark ++ target :: others))) = .options statsHere) ∧
        (left = [] → ∀ arg more, (mark = [] → Argument.of arg = .other) →
          parse ("all" :: (units.flatten ++ (mark ++ arg :: more))) = .refused (.unexpected (arg :: more)) []) := by
  have haccepted : parse ["all", "-stats", ".", "-r", "x"] = .options statsHere := by decide +kernel
  exact ⟨haccepted, parse_usesEvery_iff haccepted⟩

/-- A second playbook is accepted and used for nothing. -/
theorem parse_ignores_argument :
    parse ["playbook", "a.yml", "b.yml"] = .options { command := .playbook, playbook := "a.yml" } ∧
      ¬ UsesEvery ["a.yml", "b.yml"] { command := .playbook, playbook := "a.yml" } := by
  refine ⟨by decide +kernel, ?_⟩
  rintro ⟨units, settings, mark, left, hreads, hleft⟩
  have hread : readFlags (flagsOf .playbook) ["a.yml", "b.yml"] = .ok (settings, left) :=
    readFlags_eq_ok_iff.mpr ⟨units, mark, hreads⟩
  have hnone : readFlags (flagsOf .playbook) ["a.yml", "b.yml"] = .ok ([], ["a.yml", "b.yml"]) := rfl
  obtain ⟨-, rfl⟩ := Prod.mk.inj (Except.ok.inj (hnone.symm.trans hread))
  rcases hleft with hleft | hleft <;> cases hleft

end Command

end RoleGraph
