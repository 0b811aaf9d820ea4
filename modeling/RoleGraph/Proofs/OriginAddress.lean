import RoleGraph.Project
import RoleGraph.Proofs.Trimming

/-!
# The address of the origin remote

The lines of a repository configuration stand in sections, and a section reaches from its header to the
next one. The reading of the address keeps one bit: whether the nearest header before a line is that of the
`origin` remote. So it ends at the first line of such a section that sets an address. A section with another
header clears the bit and never ends the reading, and the bit that it leaves is lost at the next header. For
that reason such sections may be added or taken out between others.
-/

namespace RoleGraph

namespace Project

variable {content line address : Text} {lines before inserted after : List Text}

/-- The lines of a text: what stands before each line break, and what stands behind the last one unless that is
empty. -/
def linesOf (content : Text) : List Text :=
  let pieces := Text.splitAt 0x0A content
  if pieces.getLast? = some [] then pieces.dropLast else pieces

/-- A line that is a section header: without the white space around it, it starts with a bracket. -/
def IsHeader (line : Text) : Prop := (Text.trim line).head? = some 0x5B

instance : DecidablePred IsHeader := fun _ => inferInstanceAs (Decidable (_ = _))

/-- The header of the section that lines end in, without the white space around it. -/
def lastHeader? (lines : List Text) : Option Text := (lines.filter IsHeader).getLast?.map Text.trim

/-- The line at a position sets the address of the `origin` remote: its section has exactly that header, its key
is `url`, and the address is what stands behind the first equals sign, both without white space around them. -/
structure SetsOrigin (lines : List Text) (i : Nat) (address : Text) : Prop where
  inside : lastHeader? (lines.take i) = some originHeader
  sets : ∃ key value, lines[i]? = some (key ++ 0x3D :: value) ∧ 0x3D ∉ key ∧
    Text.trim key = Text.ofString "url" ∧ address = Text.trim value

/-- The address that the first of the lines sets which does, from a position on, or nothing when none does. -/
inductive FirstOrigin (lines : List Text) (start : Nat) : Text → Prop
  | found {i : Nat} {address : Text} (hstart : start ≤ i) (h : SetsOrigin lines i address)
      (hfirst : ∀ j < i, start ≤ j → ∀ other, ¬ SetsOrigin lines j other) : FirstOrigin lines start address
  | none (h : ∀ i, start ≤ i → ∀ address, ¬ SetsOrigin lines i address) : FirstOrigin lines start []

/-- Whole sections whose headers are not that of the `origin` remote. -/
structure OtherSections (inserted : List Text) : Prop where
  headed : ∀ line ∈ inserted.head?, IsHeader line
  other : ∀ line ∈ inserted, Text.trim line ≠ originHeader

/-! ## One line -/

/-- The equals sign is a mark. -/
theorem isMark_equals : Text.IsMark 0x3D := ⟨by decide, by decide⟩

/-- White space around a line does not matter for the address that it sets. -/
theorem addressOf?_trim (line : Text) : addressOf? (Text.trim line) = addressOf? line := by
  by_cases hmem : (0x3D : UInt8) ∈ line
  · obtain ⟨key, value, rfl, hkey⟩ := List.eq_append_cons_of_mem hmem
    have hstart : 0x3D ∉ Text.trimStart key := fun h => hkey ((Text.trimStart_suffix key).subset h)
    rw [addressOf?, Text.trim_around isMark_equals, Text.cut?_append_cons hstart, addressOf?,
      Text.cut?_append_cons hkey]
    dsimp only
    rw [Text.trim_trimStart, Text.trim_trimEnd]
  · have htrim : 0x3D ∉ Text.trim line := by
      rw [Text.trim_eq]
      exact fun h => hmem ((Text.trimStart_suffix line).subset ((Text.trimEnd_prefix _).subset h))
    rw [addressOf?, Text.cut?_of_notMem htrim, addressOf?, Text.cut?_of_notMem hmem]

/-- A line sets an address exactly when its key is that of an address. -/
theorem addressOf?_eq_some : addressOf? line = some address ↔ ∃ key value, line = key ++ 0x3D :: value ∧
    0x3D ∉ key ∧ Text.trim key = Text.ofString "url" ∧ address = Text.trim value := by
  constructor
  · intro h
    by_cases hmem : (0x3D : UInt8) ∈ line
    · obtain ⟨key, value, rfl, hkey⟩ := List.eq_append_cons_of_mem hmem
      rw [addressOf?, Text.cut?_append_cons hkey] at h
      dsimp only at h
      split_ifs at h with hurl
      exact ⟨key, value, rfl, hkey, hurl, (Option.some.inj h).symm⟩
    · rw [addressOf?, Text.cut?_of_notMem hmem] at h
      cases h
  · rintro ⟨key, value, rfl, hkey, hurl, rfl⟩
    rw [addressOf?, Text.cut?_append_cons hkey]
    exact if_pos hurl

/-- A header sets no address. -/
theorem IsHeader.addressOf? (h : IsHeader line) : addressOf? line = none := by
  rw [Option.eq_none_iff_forall_ne_some]
  intro address hsets
  obtain ⟨key, value, rfl, -, hurl, -⟩ := addressOf?_eq_some.mp hsets
  obtain ⟨blank, hblank⟩ := Text.trimEnd_prefix (Text.trimStart key)
  rw [← Text.trim_eq, hurl] at hblank
  rw [IsHeader, Text.trim_around isMark_equals, ← hblank] at h
  have hstart : some 0x75 = some (0x5B : UInt8) := h
  exact absurd hstart (by decide)

/-- What a line sets is read off the line and the section that it stands in. -/
theorem setsOrigin_iff {i : Nat} : SetsOrigin lines i address ↔
    lastHeader? (lines.take i) = some originHeader ∧
      ∃ line, lines[i]? = some line ∧ addressOf? line = some address := by
  constructor
  · rintro ⟨hinside, key, value, hline, hsets⟩
    exact ⟨hinside, _, hline, addressOf?_eq_some.mpr ⟨key, value, rfl, hsets⟩⟩
  · rintro ⟨hinside, line, hline, hsets⟩
    obtain ⟨key, value, rfl, hkey⟩ := addressOf?_eq_some.mp hsets
    exact ⟨hinside, key, value, hline, hkey⟩

/-- A line sets at most one address. -/
theorem SetsOrigin.unique {i : Nat} {other : Text} (h : SetsOrigin lines i address)
    (h' : SetsOrigin lines i other) : address = other := by
  obtain ⟨-, line, hline, hsets⟩ := setsOrigin_iff.mp h
  obtain ⟨-, line', hline', hsets'⟩ := setsOrigin_iff.mp h'
  obtain rfl := Option.some.inj (hline.symm.trans hline')
  exact Option.some.inj (hsets.symm.trans hsets')

/-- The lines determine the first address. -/
theorem FirstOrigin.unique {start : Nat} {other : Text} (h : FirstOrigin lines start address)
    (h' : FirstOrigin lines start other) : address = other := by
  cases h with
  | none hnone =>
    cases h' with
    | none _ => rfl
    | found hstart h' _ => exact absurd h' (hnone _ hstart _)
  | @found i _ hstart h hfirst =>
    cases h' with
    | none hnone => exact absurd h (hnone i hstart _)
    | @found j _ hstart' h' hfirst' =>
      rcases Nat.lt_trichotomy i j with hlt | rfl | hlt
      · exact absurd h (hfirst' i hlt hstart _)
      · exact h.unique h'
      · exact absurd h' (hfirst j hlt hstart' _)

/-- A line that sets an address is the first from its position on. -/
theorem FirstOrigin.here {start : Nat} (h : SetsOrigin lines start address) : FirstOrigin lines start address :=
  .found (Nat.le_refl start) h fun _ hlt hle => absurd hlt (Nat.not_lt.mpr hle)

/-- A line that sets no address is passed over. -/
theorem FirstOrigin.behind {start : Nat} (hnone : ∀ other, ¬ SetsOrigin lines start other)
    (h : FirstOrigin lines (start + 1) address) : FirstOrigin lines start address := by
  cases h with
  | found hstart h hfirst =>
    refine .found (Nat.le_of_succ_le hstart) h fun j hlt hle => ?_
    rcases Nat.eq_or_lt_of_le hle with rfl | hle
    · exact hnone
    · exact hfirst j hlt hle
  | none h =>
    refine .none fun i hle => ?_
    rcases Nat.eq_or_lt_of_le hle with rfl | hle
    · exact hnone
    · exact h i hle

/-! ## The reading of lines -/

/-- A header is the last one. -/
theorem lastHeader?_concat (done : List Text) (line : Text) :
    lastHeader? (done ++ [line]) = if IsHeader line then some (Text.trim line) else lastHeader? done := by
  rw [lastHeader?, List.filter_append]
  split_ifs with h
  · simp [h]
  · simp [h, lastHeader?]

/-- The reading goes on behind a line: a header tells the section, and any other line may end the reading. -/
theorem originIn_cons (inside : Bool) (line : Text) (rest : List Text) :
    originIn inside ((line :: rest).map Text.trim) =
      if IsHeader line then originIn (Text.trim line = originHeader) (rest.map Text.trim)
      else if inside then (addressOf? line).getD (originIn inside (rest.map Text.trim))
      else originIn inside (rest.map Text.trim) := by
  rw [List.map_cons, originIn, addressOf?_trim]
  simp only [IsHeader]
  cases addressOf? line <;> rfl

/-- The reading that goes on behind some lines yields the first address that is set from there on. -/
theorem originIn_first {rest : List Text} (done : List Text) (hlines : lines = done ++ rest) :
    FirstOrigin lines done.length (originIn (lastHeader? done = some originHeader) (rest.map Text.trim)) := by
  induction rest generalizing done with
  | nil =>
    refine .none fun i hle address h => ?_
    obtain ⟨-, line, hline, -⟩ := setsOrigin_iff.mp h
    rw [hlines, List.append_nil, List.getElem?_eq_none hle] at hline
    cases hline
  | cons line rest ih =>
    have hhere : ∀ address, SetsOrigin lines done.length address ↔
        lastHeader? done = some originHeader ∧ addressOf? line = some address := by
      intro address
      rw [setsOrigin_iff, hlines]
      simp
    have hnext := ih (done ++ [line]) (by rw [hlines, List.append_assoc, List.singleton_append])
    rw [List.length_append, List.length_singleton, lastHeader?_concat] at hnext
    rw [originIn_cons]
    by_cases hheader : IsHeader line
    · rw [if_pos hheader] at hnext ⊢
      refine .behind (fun other h => ?_) (by simpa using hnext)
      rw [hhere, hheader.addressOf?] at h
      cases h.2
    rw [if_neg hheader] at hnext ⊢
    by_cases hinside : lastHeader? done = some originHeader
    · rw [if_pos (decide_eq_true hinside)]
      cases haddress : addressOf? line with
      | none =>
        refine .behind (fun other h => ?_) hnext
        rw [hhere, haddress] at h
        cases h.2
      | some address => exact .here ((hhere address).mpr ⟨hinside, haddress⟩)
    · rw [if_neg (by simpa using hinside)]
      exact .behind (fun other h => hinside ((hhere other).mp h).1) hnext

/-! ## Lines that the reading passes over -/

/-- Lines may be exchanged behind others when they are read alike in every section. -/
theorem originIn_append_congr {xs ys : List Text}
    (h : ∀ inside, originIn inside (xs.map Text.trim) = originIn inside (ys.map Text.trim)) (before : List Text)
    (inside : Bool) :
    originIn inside ((before ++ xs).map Text.trim) = originIn inside ((before ++ ys).map Text.trim) := by
  induction before generalizing inside with
  | nil => exact h inside
  | cons line before ih => simp only [List.cons_append, originIn_cons, ih]

/-- Before a header it does not matter which section ends there. -/
theorem originIn_before_header (h : ∀ line ∈ after.head?, IsHeader line) (inside inside' : Bool) :
    originIn inside (after.map Text.trim) = originIn inside' (after.map Text.trim) := by
  cases after with
  | nil => rfl
  | cons line after =>
    have hheader : IsHeader line := h line rfl
    rw [originIn_cons, if_pos hheader, originIn_cons, if_pos hheader]

/-- Outside the sections of the `origin` remote the reading passes over every line until the next such section. -/
theorem originIn_outside (h : ∀ line ∈ inserted, Text.trim line ≠ originHeader) (after : List Text) :
    originIn false ((inserted ++ after).map Text.trim) = originIn false (after.map Text.trim) := by
  induction inserted with
  | nil => rfl
  | cons line rest ih =>
    obtain ⟨hline, hrest⟩ := List.forall_mem_cons.mp h
    rw [List.cons_append, originIn_cons, decide_eq_false hline, if_neg Bool.false_ne_true, ite_self, ih hrest]

/-- Whole other sections before a header, or before the end, are passed over. -/
theorem OtherSections.originIn (h : OtherSections inserted) (hafter : ∀ line ∈ after.head?, IsHeader line)
    (inside : Bool) :
    Project.originIn inside ((inserted ++ after).map Text.trim) = Project.originIn inside (after.map Text.trim) := by
  have hheaded : ∀ line ∈ (inserted ++ after).head?, IsHeader line := by
    cases inserted with
    | nil => exact hafter
    | cons line rest => exact h.headed
  rw [originIn_before_header hheaded inside false, originIn_outside h.other,
    originIn_before_header hafter inside false]

/-- Behind the last line there is at most an empty piece. -/
theorem splitAt_eq_linesOf (content : Text) :
    ∃ last, (last = [] ∨ last = [[]]) ∧ Text.splitAt 0x0A content = linesOf content ++ last := by
  rw [linesOf]
  split_ifs with h
  · exact ⟨[[]], Or.inr rfl, (List.dropLast_append_getLast? [] h).symm⟩
  · exact ⟨[], Or.inl rfl, (List.append_nil _).symm⟩

/-- Short lines are all read. -/
theorem originOf_eq (h : ∀ line ∈ linesOf content, line.length < lineLimit) :
    originOf content = originIn false ((linesOf content).map Text.trim) := by
  obtain ⟨last, hlast, hsplit⟩ := splitAt_eq_linesOf content
  have hshort : ∀ line ∈ linesOf content ++ last, decide (line.length < lineLimit) = true := by
    intro line hline
    rw [decide_eq_true_eq]
    rcases List.mem_append.mp hline with hline | hline
    · exact h line hline
    · rcases hlast with rfl | rfl
      · cases hline
      · rw [List.mem_singleton.mp hline]
        decide
  have hempty : ∀ inside, originIn inside (last.map Text.trim) = originIn inside (([] : List Text).map Text.trim) := by
    rcases hlast with rfl | rfl <;> decide
  rw [originOf, configLines, hsplit, List.takeWhile_eq_self_iff.mpr hshort, originIn_append_congr hempty,
    List.append_nil]

/-- The address of the `origin` remote in a configuration of short lines is the one that the first line sets which
does, and whole sections with another header, added or taken out before a header or at the end, do not change it. -/
theorem originOf_first (hshort : ∀ line ∈ linesOf content, line.length < lineLimit) :
    (∀ address, originOf content = address ↔ FirstOrigin (linesOf content) 0 address) ∧
    ∀ content' before inserted after, linesOf content = before ++ after →
      linesOf content' = before ++ inserted ++ after → OtherSections inserted →
      (∀ line ∈ after.head?, IsHeader line) → (∀ line ∈ inserted, line.length < lineLimit) →
      originOf content' = originOf content := by
  refine ⟨fun address => ?_, fun content' before inserted after hlines hlines' hother hafter hshort' => ?_⟩
  · have hfirst : FirstOrigin (linesOf content) 0 (originOf content) := by
      rw [originOf_eq hshort]
      exact originIn_first [] rfl
    constructor
    · rintro rfl
      exact hfirst
    · exact hfirst.unique
  · obtain ⟨hbefore, hbehind⟩ := List.forall_mem_append.mp (hlines ▸ hshort)
    have hall : ∀ line ∈ linesOf content', line.length < lineLimit :=
      hlines' ▸ List.forall_mem_append.mpr ⟨List.forall_mem_append.mpr ⟨hbefore, hshort'⟩, hbehind⟩
    rw [originOf_eq hshort, originOf_eq hall, hlines, hlines', List.append_assoc]
    exact originIn_append_congr (hother.originIn hafter) before false

/-- A configuration with line breaks of both kinds and an address that has an equals sign. -/
def plainConfig : Text := "[core]\r\nbare\r\n[remote \"origin\"]\n\turl = a?b=c\r\n"

/-- The same configuration with a section about another remote in between. -/
def forkedConfig : Text :=
  "[core]\r\nbare\r\n[remote \"fork\"]\nurl = d\n[remote \"origin\"]\n\turl = a?b=c\r\n"

/-- The address is found whole, and it is found again behind the section about another remote. -/
theorem originOf_first_forked :
    FirstOrigin (linesOf plainConfig) 0 "a?b=c" ∧ originOf forkedConfig = originOf plainConfig := by
  have hshort : ∀ line ∈ linesOf plainConfig, line.length < lineLimit := by decide +kernel
  have haddress : originOf plainConfig = "a?b=c" := by decide +kernel
  have hlines : linesOf forkedConfig = (["[core]\r", "bare\r"] : List Text) ++
      (["[remote \"fork\"]", "url = d"] : List Text) ++
      (["[remote \"origin\"]", "\turl = a?b=c\r"] : List Text) := by decide +kernel
  obtain ⟨hfirst, hsame⟩ := originOf_first hshort
  refine ⟨(hfirst _).mp haddress, hsame forkedConfig _ _ _ ?_ hlines ⟨?_, ?_⟩ ?_ ?_⟩ <;> decide +kernel

end Project

end RoleGraph
