import Mathlib.Algebra.GroupWithZero.Nat
import RoleGraph.Text.Numeral
import RoleGraph.Text.Symbol

/-!
# Characters, their bytes and their digits

No byte is lost when a text is read as symbols, and a byte below `0x80` stands in a text for the one
character with that number. Hexadecimal digits are read back as the number that they were written for.
These two facts are what the readers of escaped texts rest on.
-/

namespace RoleGraph

namespace Text

/-! ## Bytes of characters -/

/-- Bytes are told by their numbers. -/
theorem byte_eq {n : Nat} {b : UInt8} (h : n = b.toNat) : n.toUInt8 = b := by
  subst h
  exact UInt8.ofNat_toNat

/-- The number of a character that is made from a number. -/
theorem toNat_ofNat {n : Nat} (h : n.isValidChar) : (Char.ofNat n).toNat = n := by
  rw [Char.ofNat, dif_pos h]
  rfl

/-- The bytes that may follow a lead byte, by their numbers. -/
theorem isTail_iff {b : UInt8} : isTail b = true ↔ 0x80 ≤ b.toNat ∧ b.toNat ≤ 0xBF := by
  simp [isTail, UInt8.le_iff_toNat_le]

/-- A byte of ASCII is the encoding of its character. -/
theorem encodeChar_ascii {a : UInt8} (h : a < 0x80) : encodeChar (Char.ofNat a.toNat) = [a] := by
  have ha : a.toNat < 0x80 := UInt8.lt_iff_toNat_lt.mp h
  simp [encodeChar, toNat_ofNat (n := a.toNat) (Or.inl (by omega)), ha, byte_eq rfl]

/-- Two bytes that form a character are its encoding. -/
theorem encodeChar_pair {a b : UInt8} (h : isPair a b = true) :
    encodeChar (Char.ofNat (a.toNat % 32 * 64 + tailBits b)) = [a, b] := by
  simp only [isPair, Bool.and_eq_true, decide_eq_true_eq, UInt8.le_iff_toNat_le, isTail_iff] at h
  obtain ⟨⟨hlow, hhigh⟩, hb⟩ := h
  change 0xC2 ≤ a.toNat at hlow
  change a.toNat ≤ 0xDF at hhigh
  unfold tailBits encodeChar
  rw [toNat_ofNat (Or.inl (by omega))]
  dsimp only
  rw [if_neg (by omega), if_pos (by omega), byte_eq (b := a) (by omega), byte_eq (b := b) (by omega)]

/-- Three bytes that form a character are its encoding. -/
theorem encodeChar_triple {a b c : UInt8} (h : isTriple a b c = true) :
    encodeChar (Char.ofNat (a.toNat % 16 * 4096 + tailBits b * 64 + tailBits c)) = [a, b, c] := by
  simp only [isTriple, Bool.and_eq_true, Bool.or_eq_true, decide_eq_true_eq, bne_iff_ne, ne_eq,
    UInt8.le_iff_toNat_le, ← UInt8.toNat_inj, isTail_iff] at h
  obtain ⟨⟨⟨⟨⟨hlow, hhigh⟩, hb⟩, hc⟩, hlong⟩, hsurrogate⟩ := h
  change 0xE0 ≤ a.toNat at hlow
  change a.toNat ≤ 0xEF at hhigh
  change ¬ a.toNat = 0xE0 ∨ 0xA0 ≤ b.toNat at hlong
  change ¬ a.toNat = 0xED ∨ b.toNat ≤ 0x9F at hsurrogate
  unfold tailBits encodeChar
  rw [toNat_ofNat (show Nat.isValidChar _ by unfold Nat.isValidChar; omega)]
  dsimp only
  rw [if_neg (by omega), if_neg (by omega), if_pos (by omega), byte_eq (b := a) (by omega),
    byte_eq (b := b) (by omega), byte_eq (b := c) (by omega)]

/-- Four bytes that form a character are its encoding. -/
theorem encodeChar_quad {a b c d : UInt8} (h : isQuad a b c d = true) :
    encodeChar (Char.ofNat (a.toNat % 8 * 262144 + tailBits b * 4096 + tailBits c * 64 + tailBits d)) =
      [a, b, c, d] := by
  simp only [isQuad, Bool.and_eq_true, Bool.or_eq_true, decide_eq_true_eq, bne_iff_ne, ne_eq,
    UInt8.le_iff_toNat_le, ← UInt8.toNat_inj, isTail_iff] at h
  obtain ⟨⟨⟨⟨⟨⟨hlow, hhigh⟩, hb⟩, hc⟩, hd⟩, hlong⟩, hlast⟩ := h
  change 0xF0 ≤ a.toNat at hlow
  change a.toNat ≤ 0xF4 at hhigh
  change ¬ a.toNat = 0xF0 ∨ 0x90 ≤ b.toNat at hlong
  change ¬ a.toNat = 0xF4 ∨ b.toNat ≤ 0x8F at hlast
  unfold tailBits encodeChar
  rw [toNat_ofNat (Or.inr ⟨by omega, by omega⟩)]
  dsimp only
  rw [if_neg (by omega), if_neg (by omega), if_neg (by omega), byte_eq (b := a) (by omega),
    byte_eq (b := b) (by omega), byte_eq (b := c) (by omega), byte_eq (b := d) (by omega)]

/-- No byte is lost when a text is read as symbols. -/
theorem ofSymbols_symbols (t : Text) : ofSymbols (symbols t) = t := by
  unfold ofSymbols
  fun_induction symbols t with
  | case1 => rfl
  | case2 a rest hascii ih => rw [List.flatMap_cons, ih, Symbol.bytes, encodeChar_ascii hascii]; rfl
  | case3 a => rfl
  | case4 a hascii b rest hpair ih => rw [List.flatMap_cons, ih, Symbol.bytes, encodeChar_pair hpair]; rfl
  | case5 a hascii b hpair ih => rw [List.flatMap_cons, ih]; rfl
  | case6 a hascii b hpair c rest htriple ih =>
    rw [List.flatMap_cons, ih, Symbol.bytes, encodeChar_triple htriple]; rfl
  | case7 a hascii b hpair c htriple ih => rw [List.flatMap_cons, ih]; rfl
  | case8 a hascii b hpair c htriple d rest hquad ih =>
    rw [List.flatMap_cons, ih, Symbol.bytes, encodeChar_quad hquad]; rfl
  | case9 a hascii b hpair c htriple d rest hquad ih => rw [List.flatMap_cons, ih]; rfl

/-- Where all of a list is mapped, each of it is. -/
theorem isSome_of_mapM {α β : Type} {f : α → Option β} {items : List α} (h : (items.mapM f).isSome) :
    ∀ a ∈ items, (f a).isSome := by
  induction items with
  | nil => exact List.forall_mem_nil _
  | cons a items ih =>
    rw [List.mapM_cons] at h
    cases ha : f a with
    | none => simp [ha] at h
    | some b =>
      cases hitems : items.mapM f with
      | none => simp [ha, hitems] at h
      | some bs => exact List.forall_mem_cons.mpr ⟨by simp [ha], ih (by rw [hitems]; rfl)⟩

/-- A text that is UTF-8 has no stray bytes. -/
theorem chars_of_isUtf8 {t : Text} (h : isUtf8 t = true) : ∀ s ∈ symbols t, ∃ c, s = .char c := by
  intro s hs
  have hsome := isSome_of_mapM h s hs
  cases s with
  | char c => exact ⟨c, rfl⟩
  | stray b => cases hsome

/-- Numbers of characters are below this bound. -/
theorem toNat_lt (c : Char) : c.toNat < 0x110000 := by
  rcases c.valid with h | h
  · exact Nat.lt_trans h (by decide)
  · exact h.2

/-- A character is one byte of ASCII, or all its bytes are above ASCII. -/
theorem encodeChar_cases (c : Char) :
    (c.toNat < 0x80 ∧ encodeChar c = [c.toNat.toUInt8]) ∨
      0x80 ≤ c.toNat ∧ ∀ b ∈ encodeChar c, 0x80 ≤ b.toNat := by
  have hvalid := toNat_lt c
  have hbyte : ∀ n : Nat, 0x80 ≤ n → n < 0x100 → 0x80 ≤ n.toUInt8.toNat := by
    intro n hlow hhigh
    change 0x80 ≤ (UInt8.ofNat n).toNat
    rw [UInt8.toNat_ofNat', Nat.mod_eq_of_lt hhigh]
    exact hlow
  unfold encodeChar
  dsimp only
  split
  · exact Or.inl ⟨‹_›, rfl⟩
  · refine Or.inr ⟨by omega, ?_⟩
    split
    · simp only [List.forall_mem_cons]
      exact ⟨hbyte _ (by omega) (by omega), hbyte _ (by omega) (by omega), nofun⟩
    · split
      · simp only [List.forall_mem_cons]
        exact ⟨hbyte _ (by omega) (by omega), hbyte _ (by omega) (by omega),
          hbyte _ (by omega) (by omega), nofun⟩
      · simp only [List.forall_mem_cons]
        exact ⟨hbyte _ (by omega) (by omega), hbyte _ (by omega) (by omega),
          hbyte _ (by omega) (by omega), hbyte _ (by omega) (by omega), nofun⟩

/-- A byte of ASCII stands in the encoding of no character but its own. -/
theorem eq_of_mem_encodeChar {b : UInt8} {c : Char} (hb : b.toNat < 0x80) (h : b ∈ encodeChar c) :
    b.toNat = c.toNat := by
  rcases encodeChar_cases c with ⟨hc, heq⟩ | ⟨-, hhigh⟩
  · rw [heq] at h
    rw [List.mem_singleton.mp h]
    change (UInt8.ofNat c.toNat).toNat = _
    rw [UInt8.toNat_ofNat', Nat.mod_eq_of_lt (by omega)]
  · have := hhigh b h
    omega

/-! ## Hexadecimal digits -/

/-- The value of a hexadecimal digit. -/
def hexDigit? (b : UInt8) : Option Nat := (Numeral.digit? b).filter (· < 16)

/-- The number that is written by hexadecimal digits after those of a number. -/
def hexValue? : Nat → Text → Option Nat
  | n, [] => some n
  | n, b :: rest => (hexDigit? b).bind fun d => hexValue? (16 * n + d) rest

/-- The number that the first digits of a text write, and the text after them. -/
def hexPrefix? (width : Nat) (t : Text) : Option (Nat × Text) :=
  if width ≤ t.length then (hexValue? 0 (t.take width)).map fun n => (n, t.drop width) else none

/-- Reading digits leaves no more than there was. -/
theorem length_of_hexPrefix? {width n : Nat} {t rest : Text} (h : hexPrefix? width t = some (n, rest)) :
    rest.length ≤ t.length := by
  unfold hexPrefix? at h
  split at h
  · obtain ⟨m, -, heq⟩ := Option.map_eq_some_iff.mp h
    rw [← (Prod.mk.inj heq).2, List.length_drop]
    exact Nat.sub_le _ _
  · cases h

/-- Digits are read one part after the other. -/
theorem hexValue?_append (n : Nat) (t u : Text) :
    hexValue? n (t ++ u) = (hexValue? n t).bind fun m => hexValue? m u := by
  induction t generalizing n with
  | nil => rfl
  | cons b t ih =>
    simp only [List.cons_append, hexValue?, ih]
    cases hexDigit? b <;> rfl

/-- One digit is written as one byte, which is read as the digit. -/
theorem encodeChar_digitChar {d : Nat} (h : d < 16) :
    ∃ b, encodeChar d.digitChar = [b] ∧ hexDigit? b = some d := by
  have hall : ∀ d : Fin 16, (encodeChar (d : Nat).digitChar).map hexDigit? = [some (d : Nat)] := by
    decide
  have hmap := hall ⟨d, h⟩
  cases hb : encodeChar d.digitChar with
  | nil => simp [hb] at hmap
  | cons b rest =>
    simp only [hb, List.map_cons, List.cons.injEq, List.map_eq_nil_iff] at hmap
    exact ⟨b, by rw [hmap.2], hmap.1⟩

/-- The digits of a number are bytes, and they are read as the number. -/
theorem hexValue?_toDigits (n : Nat) :
    hexValue? 0 (ofChars (Nat.toDigits 16 n)) = some n ∧
      (ofChars (Nat.toDigits 16 n)).length = (Nat.toDigits 16 n).length := by
  induction n using Nat.strongRecOn with
  | ind n ih =>
    obtain ⟨b, hb, hdigit⟩ := encodeChar_digitChar (Nat.mod_lt n (by decide : 0 < 16))
    rw [Nat.toDigits_eq_if (by decide)]
    split
    · rename_i hlt
      rw [Nat.mod_eq_of_lt hlt] at hb hdigit
      simp [ofChars, hb, hexValue?, hdigit]
    · obtain ⟨hvalue, hlength⟩ := ih (n / 16) (by omega)
      have hsplit : ofChars (Nat.toDigits 16 (n / 16) ++ [(n % 16).digitChar]) =
          ofChars (Nat.toDigits 16 (n / 16)) ++ [b] := by
        simp [ofChars, hb]
      rw [hsplit]
      refine ⟨?_, by simp [hlength]⟩
      simp only [hexValue?_append, hvalue, hexValue?, hdigit, Option.bind_some]
      congr 1
      omega

/-- Zeros in front do not count. -/
theorem hexValue?_zeros (count : Nat) (t : Text) :
    hexValue? 0 (List.replicate count (byte '0') ++ t) = hexValue? 0 t := by
  induction count with
  | zero => rfl
  | succ count ih =>
    rw [List.replicate_succ, List.cons_append, hexValue?, show hexDigit? (byte '0') = some 0 by decide]
    exact ih

/-- A number that fits is written with the given number of digits, and they are read as the number. -/
theorem hexValue?_hex {width n : Nat} (hwidth : 0 < width) (h : n < 16 ^ width) :
    hexValue? 0 (hex width n) = some n ∧ (hex width n).length = width := by
  obtain ⟨hvalue, hlength⟩ := hexValue?_toDigits n
  have hle := (Nat.length_toDigits_le_iff (by decide : 1 < 16) hwidth).mpr h
  refine ⟨by rw [hex, hexValue?_zeros, hvalue], ?_⟩
  rw [hex, List.length_append, List.length_replicate, hlength]
  omega

/-- A number that fits is read back, with what follows it. -/
theorem hexPrefix?_hex {width n : Nat} (hwidth : 0 < width) (h : n < 16 ^ width) (rest : Text) :
    hexPrefix? width (hex width n ++ rest) = some (n, rest) := by
  obtain ⟨hvalue, hlength⟩ := hexValue?_hex hwidth h
  rw [hexPrefix?, if_pos (by simp [hlength]), List.take_left' hlength, List.drop_left' hlength, hvalue]
  rfl

/-- What is read as a number is made of digits. -/
theorem hexDigit?_of_mem {n m : Nat} {t : Text} (h : hexValue? n t = some m) {b : UInt8} (hb : b ∈ t) :
    (hexDigit? b).isSome := by
  induction t generalizing n with
  | nil => cases hb
  | cons a t ih =>
    obtain ⟨d, hd, hrest⟩ := Option.bind_eq_some_iff.mp h
    rcases List.mem_cons.mp hb with rfl | hb
    · rw [hd]
      rfl
    · exact ih hrest hb

end Text

end RoleGraph
