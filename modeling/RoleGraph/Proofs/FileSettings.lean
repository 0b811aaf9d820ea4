import Mathlib.Tactic.SplitIfs
import RoleGraph.Settings

/-!
# What a configuration file gives

The attributes of a file are set one after the other, each in its own entry of the settings, and the
attributes of the block about the log in entries of their own. So an entry is read from the value of the
attribute with its name, and is left unset when the file has no such attribute. Attributes are not given
twice in a file that can be read; were they, the last would count.
-/

namespace RoleGraph

namespace Settings

variable {b : Hcl.Bindings} {items : List Hcl.Item} {s s' : Settings} {name : Text}

/-! ## Entries -/

/-- The value of one field of the settings. -/
inductive Entry where
  | text (t : Text)
  | number (n : Int)
  | flag (b : Bool)
  | texts (ts : List Text)

/-- An entry is what a value of a configuration file stands for. -/
def Entry.ReadFrom : Entry → Hcl.Value → Prop
  | .text t, v => v.toText? = some t
  | .number n, v => int? v = some n
  | .flag b, v => v.toBool? = some b
  | .texts ts, v => v.toTexts? = some ts

/-- The entries that the attributes of a file set. -/
def entries (s : Settings) : List Entry :=
  [.text s.rolesDir, .text s.outputPath, .text s.format, .number s.maxDepth, .flag s.allRoles, .flag s.stats,
    .text s.matcher, .texts s.exclude, .texts s.includeKeys]

/-- The names of these attributes, in the same order. -/
def entryNames : List Text :=
  ["roles_dir", "output_path", "format", "max_depth", "all_roles", "stats", "match", "exclude", "include_keys"]

/-- The entries that the attributes of the block about the log set. -/
def logEntries (s : Settings) : List Entry := [.text s.logLevel, .text s.logFormat]

/-- The names of these attributes, in the same order. -/
def logEntryNames : List Text := ["level", "format"]

/-- The values that items give to an attribute, in order. -/
def valuesGiven (b : Hcl.Bindings) (items : List Hcl.Item) (name : Text) : List Hcl.Value :=
  items.filterMap fun
    | .attribute n e => if n = name then some (e.eval b).value else none
    | .block _ _ _ => none

/-- The items inside the blocks of a body. -/
def blockItems (items : List Hcl.Item) : List Hcl.Item :=
  items.flatMap fun
    | .attribute _ _ => []
    | .block _ _ inner => inner

/-- Entries after some values were given: the last value for an entry counts, and an entry without one is
as before. -/
def Updated (names : List Text) (values : Text → List Hcl.Value) (before after : List Entry) : Prop :=
  ∀ (i : Nat) (name : Text) (e : Entry), names[i]? = some name → after[i]? = some e →
    (∃ v, (values name).getLast? = some v ∧ e.ReadFrom v) ∨ values name = [] ∧ before[i]? = some e

variable {names : List Text} {values values' : Text → List Hcl.Value} {before mid after : List Entry}

/-- Without values nothing changes. -/
theorem Updated.refl (names : List Text) (before : List Entry) : Updated names (fun _ => []) before before :=
  fun _ _ _ _ he => Or.inr ⟨rfl, he⟩

/-- Values that are given later replace the ones before. -/
theorem Updated.trans (h : Updated names values before mid) (h' : Updated names values' mid after) :
    Updated names (fun name => values name ++ values' name) before after := by
  intro i name e hname he
  rcases h' i name e hname he with ⟨v, hv, hread⟩ | ⟨hnone, hmid⟩
  · exact Or.inl ⟨v, by rw [List.getLast?_append, hv, Option.some_or], hread⟩
  · rcases h i name e hname hmid with ⟨v, hv, hread⟩ | ⟨hnone', hbefore⟩
    · exact Or.inl ⟨v, by simp only [hnone, List.append_nil, hv], hread⟩
    · exact Or.inr ⟨by simp only [hnone, hnone', List.append_nil], hbefore⟩

/-- Setting an attribute changes one entry, the one with its name. -/
def SetsOne (names : List Text) (view : Settings → List Entry) (set : Settings → Text → Hcl.Value → Option Settings) :
    Prop :=
  ∀ s name v s', set s name v = some s' → ∃ (i : Nat) (e : Entry),
    names[i]? = some name ∧ e.ReadFrom v ∧ view s' = (view s).set i e

/-- A value that is set is the one that its entry is read from. -/
theorem SetsOne.updated {view : Settings → List Entry} {set : Settings → Text → Hcl.Value → Option Settings}
    {v : Hcl.Value} (hset : SetsOne names view set) (hnames : names.Nodup) (h : set s name v = some s') :
    Updated names (fun n => if name = n then [v] else []) (view s) (view s') := by
  obtain ⟨i, e, hname, hread, hview⟩ := hset s name v s' h
  intro j other e' hother he'
  rw [hview] at he'
  by_cases hsame : name = other
  · subst hsame
    have hlength : i < names.length := (List.getElem?_eq_some_iff.mp hname).1
    obtain rfl : i = j := (List.getElem?_inj hlength hnames).mp (hname.trans hother.symm)
    rw [List.getElem?_set, if_pos rfl] at he'
    split_ifs at he'
    cases he'
    exact Or.inl ⟨v, by simp, hread⟩
  · have hplace : i ≠ j := by
      rintro rfl
      exact hsame (Option.some.inj (hname.symm.trans hother))
    rw [List.getElem?_set_ne hplace] at he'
    exact Or.inr ⟨if_neg hsame, he'⟩

/-- One of several attributes is set, or a later one. -/
theorem eq_some_of_ite_map {α : Type} {c : Prop} [Decidable c] {read : Option α} {f : α → Settings}
    {rest : Option Settings} (h : (if c then read.map f else rest) = some s') :
    (c ∧ ∃ a, read = some a ∧ f a = s') ∨ rest = some s' := by
  split at h
  · rename_i hc
    exact Or.inl ⟨hc, Option.map_eq_some_iff.mp h⟩
  · exact Or.inr h

/-- An attribute of a file sets one entry, and none about the log. -/
theorem setAttribute_eq_some {v : Hcl.Value} (h : setAttribute s name v = some s') :
    (∃ (i : Nat) (e : Entry), entryNames[i]? = some name ∧ e.ReadFrom v ∧ s'.entries = s.entries.set i e) ∧
      s'.logEntries = s.logEntries := by
  unfold setAttribute at h
  rcases eq_some_of_ite_map h with ⟨rfl, t, ht, rfl⟩ | h
  · exact ⟨⟨0, .text t, rfl, ht, rfl⟩, rfl⟩
  rcases eq_some_of_ite_map h with ⟨rfl, t, ht, rfl⟩ | h
  · exact ⟨⟨1, .text t, rfl, ht, rfl⟩, rfl⟩
  rcases eq_some_of_ite_map h with ⟨rfl, t, ht, rfl⟩ | h
  · exact ⟨⟨2, .text t, rfl, ht, rfl⟩, rfl⟩
  rcases eq_some_of_ite_map h with ⟨rfl, n, hn, rfl⟩ | h
  · exact ⟨⟨3, .number n, rfl, hn, rfl⟩, rfl⟩
  rcases eq_some_of_ite_map h with ⟨rfl, on, hon, rfl⟩ | h
  · exact ⟨⟨4, .flag on, rfl, hon, rfl⟩, rfl⟩
  rcases eq_some_of_ite_map h with ⟨rfl, on, hon, rfl⟩ | h
  · exact ⟨⟨5, .flag on, rfl, hon, rfl⟩, rfl⟩
  rcases eq_some_of_ite_map h with ⟨rfl, t, ht, rfl⟩ | h
  · exact ⟨⟨6, .text t, rfl, ht, rfl⟩, rfl⟩
  rcases eq_some_of_ite_map h with ⟨rfl, ts, hts, rfl⟩ | h
  · exact ⟨⟨7, .texts ts, rfl, hts, rfl⟩, rfl⟩
  rcases eq_some_of_ite_map h with ⟨rfl, ts, hts, rfl⟩ | h
  · exact ⟨⟨8, .texts ts, rfl, hts, rfl⟩, rfl⟩
  cases h

/-- An attribute of the block about the log sets one entry about it, and no other. -/
theorem setLogAttribute_eq_some {v : Hcl.Value} (h : setLogAttribute s name v = some s') :
    (∃ (i : Nat) (e : Entry), logEntryNames[i]? = some name ∧ e.ReadFrom v ∧
      s'.logEntries = s.logEntries.set i e) ∧ s'.entries = s.entries := by
  unfold setLogAttribute at h
  rcases eq_some_of_ite_map h with ⟨rfl, t, ht, rfl⟩ | h
  · exact ⟨⟨0, .text t, rfl, ht, rfl⟩, rfl⟩
  rcases eq_some_of_ite_map h with ⟨rfl, t, ht, rfl⟩ | h
  · exact ⟨⟨1, .text t, rfl, ht, rfl⟩, rfl⟩
  cases h

/-! ## Items one after the other -/

variable {set : Settings → Text → Hcl.Value → Option Settings}
  {enter : Settings → Text → List Text → List Hcl.Item → Option Settings}

/-- An attribute in front is set before the other items. -/
theorem setItems_attribute {e : Hcl.Expr} (h : setItems b set enter (.attribute name e :: items) s = some s') :
    ∃ mid, set s name (e.eval b).value = some mid ∧ setItems b set enter items mid = some s' := by
  rw [setItems] at h
  dsimp only at h
  split_ifs at h with hfailed
  · cases h
  · exact Option.bind_eq_some_iff.mp h

/-- A block in front is entered before the other items. -/
theorem setItems_block {labels : List Text} {inner : List Hcl.Item}
    (h : setItems b set enter (.block name labels inner :: items) s = some s') :
    ∃ mid, enter s name labels inner = some mid ∧ setItems b set enter items mid = some s' := by
  rw [setItems] at h
  exact Option.bind_eq_some_iff.mp h

/-- Items leave alone what neither attributes nor blocks change. -/
theorem setItems_preserves {α : Type} {view : Settings → α}
    (hset : ∀ s name v s', set s name v = some s' → view s' = view s)
    (henter : ∀ s name labels inner s', enter s name labels inner = some s' → view s' = view s)
    (h : setItems b set enter items s = some s') : view s' = view s := by
  induction items generalizing s with
  | nil =>
    cases h
    rfl
  | cons item rest ih =>
    rcases item with ⟨name, e⟩ | ⟨name, labels, inner⟩
    · obtain ⟨mid, hmid, hrest⟩ := setItems_attribute h
      exact (ih hrest).trans (hset s name _ mid hmid)
    · obtain ⟨mid, hmid, hrest⟩ := setItems_block h
      exact (ih hrest).trans (henter s name labels inner mid hmid)

/-- The entries are read from the values of the attributes, where blocks leave them alone. -/
theorem setItems_updated {view : Settings → List Entry} (hset : SetsOne names view set) (hnames : names.Nodup)
    (henter : ∀ s name labels inner s', enter s name labels inner = some s' → view s' = view s)
    (h : setItems b set enter items s = some s') : Updated names (valuesGiven b items) (view s) (view s') := by
  induction items generalizing s with
  | nil =>
    cases h
    exact Updated.refl _ _
  | cons item rest ih =>
    rcases item with ⟨name, e⟩ | ⟨name, labels, inner⟩
    · obtain ⟨mid, hmid, hrest⟩ := setItems_attribute h
      have hvalues : valuesGiven b (.attribute name e :: rest) =
          fun n => (if name = n then [(e.eval b).value] else []) ++ valuesGiven b rest n := by
        funext n
        by_cases hname : name = n <;> simp [valuesGiven, hname]
      rw [hvalues]
      exact (hset.updated hnames hmid).trans (ih hrest)
    · obtain ⟨mid, hmid, hrest⟩ := setItems_block h
      rw [← henter s name labels inner mid hmid]
      exact ih hrest

/-- No two attributes of a file have one name. -/
theorem nodup_entryNames : entryNames.Nodup := by decide +kernel

/-- No two attributes of the block about the log have one name. -/
theorem nodup_logEntryNames : logEntryNames.Nodup := by decide +kernel

/-- A block is about the log: it sets entries about it by the values inside, and no other. -/
theorem setBlock_updated {labels : List Text} {inner : List Hcl.Item} (h : setBlock b s name labels inner = some s') :
    Updated logEntryNames (valuesGiven b inner) s.logEntries s'.logEntries ∧ s'.entries = s.entries := by
  unfold setBlock at h
  split_ifs at h
  constructor
  · refine setItems_updated (fun _ _ _ _ hset => (setLogAttribute_eq_some hset).1) nodup_logEntryNames ?_ h
    intro _ _ _ _ _ hnone
    cases hnone
  · refine setItems_preserves (fun _ _ _ _ hset => (setLogAttribute_eq_some hset).2) ?_ h
    intro _ _ _ _ _ hnone
    cases hnone

/-- The entries of a file are read from its attributes. -/
theorem entries_updated (h : setItems b setAttribute (setBlock b) items s = some s') :
    Updated entryNames (valuesGiven b items) s.entries s'.entries :=
  setItems_updated (fun _ _ _ _ hset => (setAttribute_eq_some hset).1) nodup_entryNames
    (fun _ _ _ _ _ hblock => (setBlock_updated hblock).2) h

/-- The entries about the log are read from the attributes in blocks. -/
theorem logEntries_updated (h : setItems b setAttribute (setBlock b) items s = some s') :
    Updated logEntryNames (valuesGiven b (blockItems items)) s.logEntries s'.logEntries := by
  induction items generalizing s with
  | nil =>
    cases h
    exact Updated.refl _ _
  | cons item rest ih =>
    rcases item with ⟨name, e⟩ | ⟨name, labels, inner⟩
    · obtain ⟨mid, hmid, hrest⟩ := setItems_attribute h
      rw [← (setAttribute_eq_some hmid).2]
      exact ih hrest
    · obtain ⟨mid, hmid, hrest⟩ := setItems_block h
      have hvalues : valuesGiven b (blockItems (.block name labels inner :: rest)) =
          fun n => valuesGiven b inner n ++ valuesGiven b (blockItems rest) n := by
        funext n
        exact List.filterMap_append
      rw [hvalues]
      exact (setBlock_updated hmid).1.trans (ih hrest)

/-! ## Whole files -/

/-- The value of a field is read from the last of some values, or unset when there is none. -/
def Given {α : Type} (values : List Hcl.Value) (read : Hcl.Value → Option α) (unset a : α) : Prop :=
  (∃ v, values.getLast? = some v ∧ read v = some a) ∨ values = [] ∧ a = unset

/-- The settings are those that the items of a file give: each field is the value of its own attribute. -/
structure GivenBy (b : Hcl.Bindings) (items : List Hcl.Item) (file : Settings) : Prop where
  rolesDir : Given (valuesGiven b items "roles_dir") Hcl.Value.toText? [] file.rolesDir
  outputPath : Given (valuesGiven b items "output_path") Hcl.Value.toText? [] file.outputPath
  format : Given (valuesGiven b items "format") Hcl.Value.toText? [] file.format
  maxDepth : Given (valuesGiven b items "max_depth") int? 0 file.maxDepth
  allRoles : Given (valuesGiven b items "all_roles") Hcl.Value.toBool? false file.allRoles
  stats : Given (valuesGiven b items "stats") Hcl.Value.toBool? false file.stats
  matcher : Given (valuesGiven b items "match") Hcl.Value.toText? [] file.matcher
  exclude : Given (valuesGiven b items "exclude") Hcl.Value.toTexts? [] file.exclude
  includeKeys : Given (valuesGiven b items "include_keys") Hcl.Value.toTexts? [] file.includeKeys
  logLevel : Given (valuesGiven b (blockItems items) "level") Hcl.Value.toText? [] file.logLevel
  logFormat : Given (valuesGiven b (blockItems items) "format") Hcl.Value.toText? [] file.logFormat

/-- An entry that was updated is given by its values. -/
theorem Updated.given {α : Type} {make : α → Entry} {read : Hcl.Value → Option α} {unset a : α}
    (h : Updated names values before after) (place : Nat) (hname : names[place]? = some name)
    (hafter : after[place]? = some (make a)) (hbefore : before[place]? = some (make unset))
    (hmake : Function.Injective make) (hread : ∀ a v, (make a).ReadFrom v → read v = some a) :
    Given (values name) read unset a := by
  rcases h place name (make a) hname hafter with ⟨v, hv, hfrom⟩ | ⟨hnone, hsame⟩
  · exact Or.inl ⟨v, hv, hread a v hfrom⟩
  · exact Or.inr ⟨hnone, hmake (Option.some.inj (hsame.symm.trans hbefore))⟩

/-- Decoding gives the settings that the items say. -/
theorem givenBy_of_ofItems? {file : Settings} (h : ofItems? b items = some file) : GivenBy b items file := by
  unfold ofItems? at h
  split_ifs at h
  have hentries := entries_updated h
  have hlog := logEntries_updated h
  have htext : Function.Injective Entry.text := fun _ _ => Entry.text.inj
  have hnumber : Function.Injective Entry.number := fun _ _ => Entry.number.inj
  have hflag : Function.Injective Entry.flag := fun _ _ => Entry.flag.inj
  have htexts : Function.Injective Entry.texts := fun _ _ => Entry.texts.inj
  exact
    { rolesDir := hentries.given 0 rfl rfl rfl htext fun _ _ hread => hread
      outputPath := hentries.given 1 rfl rfl rfl htext fun _ _ hread => hread
      format := hentries.given 2 rfl rfl rfl htext fun _ _ hread => hread
      maxDepth := hentries.given 3 rfl rfl rfl hnumber fun _ _ hread => hread
      allRoles := hentries.given 4 rfl rfl rfl hflag fun _ _ hread => hread
      stats := hentries.given 5 rfl rfl rfl hflag fun _ _ hread => hread
      matcher := hentries.given 6 rfl rfl rfl htext fun _ _ hread => hread
      exclude := hentries.given 7 rfl rfl rfl htexts fun _ _ hread => hread
      includeKeys := hentries.given 8 rfl rfl rfl htexts fun _ _ hread => hread
      logLevel := hlog.given 0 rfl rfl rfl htext fun _ _ hread => hread
      logFormat := hlog.given 1 rfl rfl rfl htext fun _ _ hread => hread }

end Settings

end RoleGraph
