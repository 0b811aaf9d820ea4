import RoleGraph.Proofs.SymbolText
import RoleGraph.Text.Quoted

/-!
# Escaped texts and how they are read

Between quotes a backslash starts an escape: a letter that stands for one byte, or a letter with the
hexadecimal digits of a number. Which letters there are is a convention of the format. A reader cuts an
escaped text into fragments; what a fragment means is again up to the format.

A writer spells its symbols one after the other. So it is enough to know the three ways to spell one
symbol: any text that is spelled in these ways is cut into the fragments of its symbols, and neither a
quote nor a backslash can stand where the reader would take it for a mark.
-/

namespace RoleGraph

namespace Text

/-- The letters of the escapes: what the ones that stand alone mean, and how many digits follow the
other ones. -/
structure Escaping where
  letters : List (UInt8 × UInt8)
  digits : List (UInt8 × Nat)

/-- A fragment of an escaped text: a byte, or a number that was given after a letter. -/
inductive Fragment where
  | byte (b : UInt8)
  | number (letter : UInt8) (n : Nat)

/-- The fragment that an escape is, read after its backslash, and the text after it. -/
def Escaping.fragment? (e : Escaping) : Text → Option (Fragment × Text)
  | [] => none
  | letter :: rest =>
    match e.digits.lookup letter with
    | some count => (hexPrefix? count rest).map fun (n, rest) => (.number letter n, rest)
    | none => (e.letters.lookup letter).map fun plain => (.byte plain, rest)

/-- An escape takes at least its letter. -/
theorem Escaping.length_of_fragment? {e : Escaping} {t rest : Text} {p : Fragment}
    (h : e.fragment? t = some (p, rest)) : rest.length < t.length := by
  unfold fragment? at h
  split at h
  · cases h
  · rename_i letter after
    rw [List.length_cons, Nat.lt_succ_iff]
    split at h
    · obtain ⟨⟨n, left⟩, hdigits, heq⟩ := Option.map_eq_some_iff.mp h
      rw [← (Prod.mk.inj heq).2]
      exact length_of_hexPrefix? hdigits
    · obtain ⟨plain, -, heq⟩ := Option.map_eq_some_iff.mp h
      exact Nat.le_of_eq (congrArg List.length (Prod.mk.inj heq).2.symm)

/-- Cut an escaped text into fragments. -/
def fragments? (e : Escaping) : Text → Option (List Fragment)
  | [] => some []
  | b :: rest =>
    if b = backslash then
      match _h : e.fragment? rest with
      | some (p, rest) => (fragments? e rest).map (p :: ·)
      | none => none
    else (fragments? e rest).map (.byte b :: ·)
termination_by t => t.length
decreasing_by
  · exact Nat.lt_trans (Escaping.length_of_fragment? ‹_›) (Nat.lt_succ_self _)
  · exact Nat.lt_succ_self _

/-- A text without quotes and backslashes. -/
def Unmarked (t : Text) : Prop := ∀ b ∈ t, b ≠ backslash ∧ b ≠ byte '"'

/-- The ways to spell fragments: as they are, by a letter, or by a letter and digits. -/
inductive Spelling (e : Escaping) : Text → List Fragment → Prop
  | verbatim {t : Text} (h : Unmarked t) : Spelling e t (t.map .byte)
  | letter {letter plain : UInt8} (hdigits : e.digits.lookup letter = none)
      (h : e.letters.lookup letter = some plain) : Spelling e [backslash, letter] [.byte plain]
  | number {letter : UInt8} {count n : Nat} (hpos : 0 < count) (h : e.digits.lookup letter = some count)
      (hn : n < 16 ^ count) : Spelling e (backslash :: letter :: hex count n) [.number letter n]

section Fragments

variable {e : Escaping} {t rest : Text} {fs : List Fragment}

/-- A text that stands as it is has its bytes for fragments. -/
theorem fragments?_unmarked (h : Unmarked t) (rest : Text) :
    fragments? e (t ++ rest) = (fragments? e rest).map (t.map .byte ++ ·) := by
  induction t with
  | nil => simp
  | cons b t ih =>
    obtain ⟨hb, ht⟩ := List.forall_mem_cons.mp h
    rw [List.cons_append, fragments?, if_neg hb.1, ih ht, Option.map_map]
    rfl

/-- An escape is read as its fragment. -/
theorem fragments?_escape {p : Fragment} {u : Text} (h : e.fragment? (t ++ rest) = some (p, u)) :
    fragments? e (backslash :: (t ++ rest)) = (fragments? e u).map (p :: ·) := by
  rw [fragments?, if_pos rfl]
  split
  · rename_i heq
    obtain ⟨rfl, rfl⟩ := Prod.mk.inj (Option.some.inj (heq.symm.trans h))
    rfl
  · rename_i heq
    cases heq.symm.trans h

/-- What is spelled is read, with what follows it. -/
theorem fragments?_spelling (h : Spelling e t fs) (rest : Text) :
    fragments? e (t ++ rest) = (fragments? e rest).map (fs ++ ·) := by
  cases h with
  | verbatim h => exact fragments?_unmarked h rest
  | @letter letter plain hdigits h =>
    have hfragment : e.fragment? ([letter] ++ rest) = some (.byte plain, rest) := by
      simp only [Escaping.fragment?, List.singleton_append, hdigits, h, Option.map_some]
    exact fragments?_escape hfragment
  | @number letter count n hpos h hn =>
    have hfragment : e.fragment? (letter :: hex count n ++ rest) = some (.number letter n, rest) := by
      simp only [Escaping.fragment?, List.cons_append, h, hexPrefix?_hex hpos hn, Option.map_some]
    exact fragments?_escape hfragment

/-- A text that is spelled symbol by symbol is read as a text that is told symbol by symbol. -/
theorem fragments?_flatMap {meaning : List Fragment → Text} (hnil : meaning [] = []) {spell : Symbol → Text}
    {ss : List Symbol} (h : ∀ s ∈ ss, ∃ fs, Spelling e (spell s) fs ∧
      ∀ more, meaning (fs ++ more) = s.bytes ++ meaning more) :
    (fragments? e (ss.flatMap spell)).map meaning = some (ofSymbols ss) := by
  induction ss with
  | nil =>
    rw [List.flatMap_nil, fragments?, Option.map_some, hnil]
    rfl
  | cons s ss ih =>
    obtain ⟨⟨fs, hspelling, hmeaning⟩, hrest⟩ := List.forall_mem_cons.mp h
    obtain ⟨more, hmore, heq⟩ := Option.map_eq_some_iff.mp (ih hrest)
    rw [List.flatMap_cons, fragments?_spelling hspelling, hmore, Option.map_some, Option.map_some, hmeaning, heq]
    rfl

end Fragments

/-- Hexadecimal digits are no marks. -/
theorem unmarked_of_hexDigit? {b : UInt8} (h : (hexDigit? b).isSome) : b ≠ backslash ∧ b ≠ byte '"' := by
  constructor
  · rintro rfl
    revert h
    decide
  · rintro rfl
    revert h
    decide

/-- The digits of a number that fits are no marks. -/
theorem unmarked_hex {width n : Nat} (hwidth : 0 < width) (h : n < 16 ^ width) : Unmarked (hex width n) :=
  fun _ hb => unmarked_of_hexDigit? (hexDigit?_of_mem (hexValue?_hex hwidth h).1 hb)

/-- A character that is no mark is encoded without marks. -/
theorem unmarked_encodeChar {c : Char} (hquote : c ≠ '"') (hbackslash : c ≠ '\\') :
    Unmarked (encodeChar c) := by
  intro b hb
  constructor
  · rintro rfl
    have hn := eq_of_mem_encodeChar (by decide) hb
    exact hbackslash (Char.toNat_inj.mp hn.symm)
  · rintro rfl
    have hn := eq_of_mem_encodeChar (by decide) hb
    exact hquote (Char.toNat_inj.mp hn.symm)

/-! ## Quoted texts -/

/-- The letters of quoted texts. -/
def Escaping.quoted : Escaping :=
  { letters := [(byte '"', byte '"'), (backslash, backslash), (byte 'a', 7), (byte 'b', 8), (byte 't', 9),
      (byte 'n', 10), (byte 'v', 11), (byte 'f', 12), (byte 'r', 13)]
    digits := [(byte 'x', 2), (byte 'u', 4), (byte 'U', 8)] }

/-- What a fragment of a quoted text stands for: two digits are a byte, more digits are a character. -/
def Fragment.bytes : Fragment → Text
  | .byte b => [b]
  | .number letter n => if letter = Text.byte 'x' then [n.toUInt8] else encodeChar (Char.ofNat n)

/-- What stands between the quotes of a quoted text. -/
def spelled (t : Text) : Text := (symbols t).flatMap quoteSymbol

/-- Read what stands between the quotes. -/
def unspelled? (t : Text) : Option Text := (fragments? .quoted t).map (·.flatMap Fragment.bytes)

/-- Bytes stand for themselves. -/
theorem flatMap_bytes (t : Text) : (t.map Fragment.byte).flatMap Fragment.bytes = t := by
  induction t with
  | nil => rfl
  | cons b t ih => rw [List.map_cons, List.flatMap_cons, ih]; rfl

/-- The escapes of one letter that are written are known. -/
theorem letters_of_shortEscape? {c letter : Char} (h : shortEscape? c = some letter) :
    Escaping.quoted.digits.lookup (byte letter) = none ∧
      ∃ plain, Escaping.quoted.letters.lookup (byte letter) = some plain ∧ encodeChar c = [plain] := by
  unfold shortEscape? at h
  split at h
  case h_8 => cases h
  all_goals
    rename_i hn
    obtain rfl := Option.some.inj h
    exact ⟨by decide, _, by rfl, by rw [encodeChar]; simp only [hn]; rfl⟩

/-- A byte that is written as a letter of quoted texts. -/
theorem spelling_letter {letter : UInt8} (plain : UInt8) {t : Text}
    (hdigits : Escaping.quoted.digits.lookup letter = none)
    (h : Escaping.quoted.letters.lookup letter = some plain) (ht : t = [plain]) :
    ∃ fs, Spelling .quoted [backslash, letter] fs ∧ fs.flatMap Fragment.bytes = t :=
  ⟨_, .letter hdigits h, ht.symm⟩

/-- A number that is written after a letter of quoted texts. -/
theorem spelling_number {letter : UInt8} {count n : Nat} {t : Text} (hpos : 0 < count)
    (h : Escaping.quoted.digits.lookup letter = some count) (hn : n < 16 ^ count)
    (ht : (Fragment.number letter n).bytes = t) :
    ∃ fs, Spelling .quoted (backslash :: letter :: hex count n) fs ∧ fs.flatMap Fragment.bytes = t :=
  ⟨_, .number hpos h hn, by rw [List.flatMap_singleton, ht]⟩

/-- Every symbol between quotes is spelled in one of the ways. -/
theorem spelling_quoteSymbol (s : Symbol) :
    ∃ fs, Spelling .quoted (quoteSymbol s) fs ∧ fs.flatMap Fragment.bytes = s.bytes := by
  cases s with
  | stray b =>
    refine spelling_number (by decide) (by decide) b.toNat_lt ?_
    rw [Fragment.bytes, if_pos rfl, byte_eq rfl]
    rfl
  | char c =>
    unfold quoteSymbol Symbol.bytes
    dsimp only
    split
    · rename_i hmark
      rw [Bool.or_eq_true, beq_iff_eq, beq_iff_eq] at hmark
      rcases hmark with rfl | rfl
      · exact spelling_letter (byte '"') (by decide) (by decide) (by decide)
      · exact spelling_letter backslash (by decide) (by decide) (by decide)
    · rename_i hmark
      rw [Bool.or_eq_true, beq_iff_eq, beq_iff_eq, not_or] at hmark
      split
      · exact ⟨_, .verbatim (unmarked_encodeChar hmark.1 hmark.2), flatMap_bytes _⟩
      · split
        · rename_i letter hletter
          obtain ⟨hdigits, plain, hplain, hbytes⟩ := letters_of_shortEscape? hletter
          exact spelling_letter plain hdigits hplain hbytes
        · split
          · rename_i hascii
            refine spelling_number (by decide) (by decide) (Nat.lt_trans hascii (by decide)) ?_
            rw [Fragment.bytes, if_pos rfl, encodeChar, if_pos hascii]
          · split
            · rename_i hshort
              refine spelling_number (by decide) (by decide) hshort ?_
              rw [Fragment.bytes, if_neg (by decide), Char.ofNat_toNat]
            · refine spelling_number (by decide) (by decide) (Nat.lt_trans (toNat_lt c) (by decide)) ?_
              rw [Fragment.bytes, if_neg (by decide), Char.ofNat_toNat]

/-- What is spelled between quotes is read back, whatever its bytes are. -/
theorem unspelled?_spelled (t : Text) : unspelled? (spelled t) = some t := by
  have hsymbols : ∀ s ∈ symbols t, ∃ fs, Spelling .quoted (quoteSymbol s) fs ∧
      ∀ more, (fs ++ more).flatMap Fragment.bytes = s.bytes ++ more.flatMap Fragment.bytes := by
    intro s _
    obtain ⟨fs, hspelling, hbytes⟩ := spelling_quoteSymbol s
    exact ⟨fs, hspelling, fun more => by rw [List.flatMap_append, hbytes]⟩
  have hread : unspelled? (spelled t) = some (ofSymbols (symbols t)) := fragments?_flatMap rfl hsymbols
  rw [hread, ofSymbols_symbols]

end Text

end RoleGraph
