import Mathlib.Data.List.DropRight
import RoleGraph.Proofs.SymbolText
import RoleGraph.Text.Blank

/-!
# Trimming next to a mark

A text is read as symbols from left to right, and whether a byte belongs to a character shows in the
bytes up to the next one of ASCII. So a text that is cut between two symbols, and goes on with a byte of
ASCII or not at all, is read as before up to the cut. A mark of ASCII that is no white space therefore
keeps what stands on its two sides apart: trimming a text trims the left side at its start and the right
side at its end, and trimming the sides again makes no difference.
-/

namespace RoleGraph

namespace Text

variable {a b c d mark : UInt8} {r t u x : Text} {xs ys : List Symbol}

/-! ## Reading up to a cut -/

/-- A text that is empty or starts with a byte of ASCII. -/
def StartsPlain (u : Text) : Prop := ∀ b ∈ u.head?, b < 0x80

/-- A byte that forms no character with the bytes behind it. -/
structure IsStray (a : UInt8) (r : Text) : Prop where
  not_ascii : ¬ a < 0x80
  not_pair : ∀ b rest, r = b :: rest → isPair a b = false
  not_triple : ∀ b c rest, r = b :: c :: rest → isTriple a b c = false
  not_quad : ∀ b c d rest, r = b :: c :: d :: rest → isQuad a b c d = false

/-- A byte of ASCII follows no lead byte. -/
theorem isTail_of_ascii (h : b < 0x80) : isTail b = false := by
  have hb : b.toNat < 0x80 := UInt8.lt_iff_toNat_lt.mp h
  rw [← Bool.not_eq_true, isTail_iff]
  omega

/-- A byte of ASCII is read as its character. -/
theorem symbols_ascii (h : a < 0x80) (r : Text) : symbols (a :: r) = .char (Char.ofNat a.toNat) :: symbols r := by
  rw [symbols.eq_def]
  exact if_pos h

/-- A byte that forms no character is read as itself. -/
theorem IsStray.symbols_eq (h : IsStray a r) : symbols (a :: r) = .stray a :: symbols r := by
  rw [symbols.eq_def]
  dsimp only
  rw [if_neg h.not_ascii]
  rcases r with _ | ⟨b, _ | ⟨c, _ | ⟨d, rest⟩⟩⟩
  · rfl
  · dsimp only
    rw [h.not_pair b _ rfl, if_neg Bool.false_ne_true]
  · dsimp only
    rw [h.not_pair b _ rfl, if_neg Bool.false_ne_true, h.not_triple b c _ rfl, if_neg Bool.false_ne_true]
  · dsimp only
    rw [h.not_pair b _ rfl, if_neg Bool.false_ne_true, h.not_triple b c _ rfl, if_neg Bool.false_ne_true,
      h.not_quad b c d _ rfl, if_neg Bool.false_ne_true]

/-- A byte that forms no character forms none when the text is cut behind it. -/
theorem IsStray.of_cut (h : IsStray a r) (hx : x <+: r) (hu : StartsPlain u) : IsStray a (x ++ u) := by
  have hplain : ∀ {b rest}, u = b :: rest → isTail b = false := fun heq => isTail_of_ascii (hu _ (by simp [heq]))
  obtain ⟨y, rfl⟩ := hx
  refine ⟨h.not_ascii, fun b rest heq => ?_, fun b c rest heq => ?_, fun b c d rest heq => ?_⟩
  · rcases x with _ | ⟨b', x⟩
    · simp [isPair, hplain heq]
    · obtain ⟨rfl, -⟩ := List.cons.inj heq
      exact h.not_pair _ _ rfl
  · rcases x with _ | ⟨b', _ | ⟨c', x⟩⟩
    · simp [isTriple, hplain heq]
    · simp [isTriple, hplain (List.cons.inj heq).2]
    · simp only [List.cons_append, List.cons.injEq] at heq
      obtain ⟨rfl, rfl, -⟩ := heq
      exact h.not_triple _ _ _ rfl
  · rcases x with _ | ⟨b', _ | ⟨c', _ | ⟨d', x⟩⟩⟩
    · simp [isQuad, hplain heq]
    · simp [isQuad, hplain (List.cons.inj heq).2]
    · simp [isQuad, hplain (List.cons.inj (List.cons.inj heq).2).2]
    · simp only [List.cons_append, List.cons.injEq] at heq
      obtain ⟨rfl, rfl, rfl, -⟩ := heq
      exact h.not_quad _ _ _ _ rfl

/-- The first symbol of a text, which is read from its bytes up to any cut behind it. -/
theorem symbols_cons_cases (a : UInt8) (r : Text) : ∃ s rest, a :: r = s.bytes ++ rest ∧
    ∀ x u, x <+: rest → StartsPlain u → symbols (s.bytes ++ (x ++ u)) = s :: symbols (x ++ u) := by
  by_cases hascii : a < 0x80
  · refine ⟨.char (Char.ofNat a.toNat), r, ?_, fun x u _ _ => ?_⟩ <;> rw [Symbol.bytes, encodeChar_ascii hascii]
    · rfl
    · exact symbols_ascii hascii _
  by_cases hpair : ∃ b rest, r = b :: rest ∧ isPair a b = true
  · obtain ⟨b, rest, rfl, hpair⟩ := hpair
    refine ⟨.char (Char.ofNat (a.toNat % 32 * 64 + tailBits b)), rest, ?_, fun x u _ _ => ?_⟩ <;>
      rw [Symbol.bytes, encodeChar_pair hpair]
    · rfl
    · rw [symbols.eq_def]
      exact (if_neg hascii).trans (if_pos hpair)
  by_cases htriple : ∃ b c rest, r = b :: c :: rest ∧ isTriple a b c = true
  · obtain ⟨b, c, rest, rfl, htriple⟩ := htriple
    have hnot : ¬ isPair a b = true := fun h => hpair ⟨b, _, rfl, h⟩
    refine ⟨.char (Char.ofNat (a.toNat % 16 * 4096 + tailBits b * 64 + tailBits c)), rest, ?_, fun x u _ _ => ?_⟩ <;>
      rw [Symbol.bytes, encodeChar_triple htriple]
    · rfl
    · rw [symbols.eq_def]
      exact (if_neg hascii).trans ((if_neg hnot).trans (if_pos htriple))
  by_cases hquad : ∃ b c d rest, r = b :: c :: d :: rest ∧ isQuad a b c d = true
  · obtain ⟨b, c, d, rest, rfl, hquad⟩ := hquad
    have hnot : ¬ isPair a b = true := fun h => hpair ⟨b, _, rfl, h⟩
    have hnot' : ¬ isTriple a b c = true := fun h => htriple ⟨b, c, _, rfl, h⟩
    refine ⟨.char (Char.ofNat (a.toNat % 8 * 262144 + tailBits b * 4096 + tailBits c * 64 + tailBits d)), rest, ?_,
      fun x u _ _ => ?_⟩ <;> rw [Symbol.bytes, encodeChar_quad hquad]
    · rfl
    · rw [symbols.eq_def]
      exact (if_neg hascii).trans ((if_neg hnot).trans ((if_neg hnot').trans (if_pos hquad)))
  have hstray : IsStray a r :=
    ⟨hascii, fun b rest h => by simpa using fun h' => hpair ⟨b, rest, h, h'⟩,
      fun b c rest h => by simpa using fun h' => htriple ⟨b, c, rest, h, h'⟩,
      fun b c d rest h => by simpa using fun h' => hquad ⟨b, c, d, rest, h, h'⟩⟩
  exact ⟨.stray a, r, rfl, fun x u hx hu => (hstray.of_cut hx hu).symbols_eq⟩

/-- The first symbol of a text is read from its first bytes, and so it is when the text is cut behind it. -/
theorem symbols_uncons {s : Symbol} (h : symbols t = s :: xs) : ∃ rest, t = s.bytes ++ rest ∧ symbols rest = xs ∧
    ∀ x u, x <+: rest → StartsPlain u → symbols (s.bytes ++ (x ++ u)) = s :: symbols (x ++ u) := by
  cases t with
  | nil => cases h
  | cons a r =>
    obtain ⟨first, rest, hbytes, hread⟩ := symbols_cons_cases a r
    have hwhole := hread rest [] (List.prefix_refl rest) nofun
    rw [List.append_nil, ← hbytes, h] at hwhole
    obtain ⟨rfl, rfl⟩ := List.cons.inj hwhole
    exact ⟨rest, hbytes, rfl, hread⟩

/-- The text that some symbols spell after another. -/
theorem ofSymbols_cons (s : Symbol) (xs : List Symbol) : ofSymbols (s :: xs) = s.bytes ++ ofSymbols xs :=
  List.flatMap_cons

/-- The text that symbols spell one after the other. -/
theorem ofSymbols_append (xs ys : List Symbol) : ofSymbols (xs ++ ys) = ofSymbols xs ++ ofSymbols ys :=
  List.flatMap_append

/-- A text that is cut between two symbols is read as before up to the cut. -/
theorem symbols_cut (h : symbols t = xs ++ ys) (hu : StartsPlain u) :
    symbols (ofSymbols xs ++ u) = xs ++ symbols u := by
  induction xs generalizing t with
  | nil => rfl
  | cons s xs ih =>
    rw [List.cons_append] at h
    obtain ⟨rest, -, hrest, hread⟩ := symbols_uncons h
    have hprefix : ofSymbols xs <+: rest := by
      rw [← ofSymbols_symbols rest, hrest, ofSymbols_append]
      exact List.prefix_append _ _
    rw [ofSymbols_cons, List.append_assoc, hread _ u hprefix hu, ih hrest, List.cons_append]

/-- What stands behind a cut between two symbols is read as before. -/
theorem symbols_behind_cut (h : symbols t = xs ++ ys) : symbols (ofSymbols ys) = ys := by
  induction xs generalizing t with
  | nil => rw [← List.nil_append ys, ← h, ofSymbols_symbols]
  | cons s xs ih =>
    obtain ⟨rest, -, hrest, -⟩ := symbols_uncons h
    exact ih hrest

/-- A text is read on both sides of a byte of ASCII. -/
theorem symbols_around (h : mark < 0x80) (t u : Text) :
    symbols (t ++ mark :: u) = symbols t ++ .char (Char.ofNat mark.toNat) :: symbols u := by
  have hwhole : symbols t = symbols t ++ [] := (List.append_nil _).symm
  have hcut := symbols_cut (u := mark :: u) hwhole (by simpa [StartsPlain] using h)
  rwa [ofSymbols_symbols, symbols_ascii h] at hcut

/-! ## Trimming -/

section Lists

variable {α : Type} {p : α → Bool} {y : α}

/-- Dropping from the start ends at the latest before an item that stays. -/
theorem dropWhile_append_cons (hy : p y = false) (l l' : List α) :
    (l ++ y :: l').dropWhile p = l.dropWhile p ++ y :: l' := by
  rw [List.dropWhile_append, List.dropWhile_cons_of_neg (by simp [hy])]
  split_ifs with h
  · rw [List.isEmpty_iff.mp h, List.nil_append]
  · rfl

/-- Dropping from the end ends at the latest behind an item that stays. -/
theorem rdropWhile_append_cons (hy : p y = false) (l l' : List α) :
    (l ++ y :: l').rdropWhile p = l ++ y :: l'.rdropWhile p := by
  have hreverse : (l ++ y :: l').reverse = l'.reverse ++ y :: l.reverse := by simp
  rw [List.rdropWhile, hreverse, dropWhile_append_cons hy, List.rdropWhile]
  simp

/-- Which end is dropped from first makes no difference. -/
theorem dropWhile_rdropWhile (l : List α) : (l.rdropWhile p).dropWhile p = (l.dropWhile p).rdropWhile p := by
  have hsplit := List.takeWhile_append_dropWhile (p := p) (l := l)
  cases hdrop : l.dropWhile p with
  | nil =>
    have hall : ∀ a ∈ l, p a := List.dropWhile_eq_nil_iff.mp hdrop
    rw [List.rdropWhile_eq_nil_iff.mpr hall, List.rdropWhile_nil, List.dropWhile_nil]
  | cons y l' =>
    have hy : p y = false := by simpa [hdrop] using List.head?_dropWhile_not p l
    have hfront : (l.takeWhile p).dropWhile p = [] :=
      List.dropWhile_eq_nil_iff.mpr fun a ha => List.mem_takeWhile_imp ha
    rw [hdrop] at hsplit
    rw [← hsplit, rdropWhile_append_cons hy, dropWhile_append_cons hy, hfront, List.nil_append,
      ← List.nil_append (y :: l'), rdropWhile_append_cons hy, List.nil_append]

end Lists

/-- A byte of ASCII that is no white space. -/
structure IsMark (mark : UInt8) : Prop where
  ascii : mark < 0x80
  not_blank : isBlankChar (Char.ofNat mark.toNat) = false

/-- A text is what its symbols spell. -/
theorem eq_of_symbols_eq (h : symbols t = symbols u) : t = u := by
  rw [← ofSymbols_symbols t, h, ofSymbols_symbols]

/-- The symbols that trimming at the start leaves. -/
theorem symbols_trimStart (t : Text) : symbols (trimStart t) = (symbols t).dropWhile Symbol.isBlank :=
  symbols_behind_cut (List.takeWhile_append_dropWhile (p := Symbol.isBlank)).symm

/-- The symbols that trimming at the end leaves. -/
theorem symbols_trimEnd (t : Text) : symbols (trimEnd t) = (symbols t).rdropWhile Symbol.isBlank := by
  have hsplit := List.rdropWhile_append_rtakeWhile (l := symbols t) (p := Symbol.isBlank)
  have hcut := symbols_cut (u := []) hsplit.symm nofun
  rwa [List.append_nil, symbols, List.append_nil] at hcut

/-- A text is trimmed at its start and then at its end. -/
theorem trim_eq (t : Text) : trim t = trimEnd (trimStart t) := by
  rw [trimEnd, symbols_trimStart, trim]

/-- Trimming at the start before makes no difference. -/
theorem trim_trimStart (t : Text) : trim (trimStart t) = trim t := by
  have htwice : trimStart (trimStart t) = trimStart t :=
    eq_of_symbols_eq (by rw [symbols_trimStart, symbols_trimStart, List.dropWhile_idempotent])
  rw [trim_eq, htwice, trim_eq]

/-- Trimming at the end before makes no difference. -/
theorem trim_trimEnd (t : Text) : trim (trimEnd t) = trim t := by
  have hsame : trimStart (trimEnd t) = trimEnd (trimStart t) := eq_of_symbols_eq (by
    rw [symbols_trimStart, symbols_trimEnd, symbols_trimEnd, symbols_trimStart, dropWhile_rdropWhile])
  have htwice : trimEnd (trimEnd (trimStart t)) = trimEnd (trimStart t) :=
    eq_of_symbols_eq (by rw [symbols_trimEnd, symbols_trimEnd, List.rdropWhile_idempotent])
  rw [trim_eq, hsame, htwice, trim_eq]

/-- Trimming at the start leaves the end of a text. -/
theorem trimStart_suffix (t : Text) : trimStart t <:+ t := by
  have hsplit := congrArg ofSymbols (List.takeWhile_append_dropWhile (p := Symbol.isBlank) (l := symbols t))
  rw [ofSymbols_append, ofSymbols_symbols] at hsplit
  exact ⟨_, hsplit⟩

/-- Trimming at the end leaves the start of a text. -/
theorem trimEnd_prefix (t : Text) : trimEnd t <+: t := by
  have hsplit := congrArg ofSymbols (List.rdropWhile_append_rtakeWhile (p := Symbol.isBlank) (l := symbols t))
  rw [ofSymbols_append, ofSymbols_symbols] at hsplit
  exact ⟨_, hsplit⟩

/-- Next to a mark the sides are trimmed one by one. -/
theorem trim_around (h : IsMark mark) (t u : Text) : trim (t ++ mark :: u) = trimStart t ++ mark :: trimEnd u := by
  have hstay : (Symbol.char (Char.ofNat mark.toNat)).isBlank = false := h.not_blank
  rw [trim_eq, trimEnd, symbols_trimStart, symbols_around h.ascii, dropWhile_append_cons hstay]
  change ofSymbols (List.rdropWhile _ _) = _
  rw [rdropWhile_append_cons hstay, ofSymbols_append, ofSymbols_cons, Symbol.bytes, encodeChar_ascii h.ascii]
  rfl

end Text

end RoleGraph
