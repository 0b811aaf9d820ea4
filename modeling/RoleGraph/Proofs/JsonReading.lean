import RoleGraph.Json
import RoleGraph.Proofs.Lexing

/-!
# Values are read back from JSON texts

A JSON text is read in two passes: its tokens, and then the value that they spell, token by token with
the collections that are still open on a stack. Strings are unescaped with pairs of surrogates joined,
and bytes below the space are refused in them.

A value that was laid out over several lines is read back when its parts are. The layout differs from
one kind of collection to the other only in its brackets and in what a part is, so the reading of parts
between brackets is followed once for both.
-/

namespace RoleGraph

open Lexing (Token)
open Text (Fragment Spelling backslash byte slash)

/-! ## Strings -/

/-- The letters of JSON strings. -/
def Text.Escaping.json : Text.Escaping :=
  { letters := [(byte '"', byte '"'), (backslash, backslash), (slash, slash), (byte 'b', 8), (byte 'f', 12),
      (byte 'n', 10), (byte 'r', 13), (byte 't', 9)]
    digits := [(byte 'u', 4)] }

namespace Json

/-- The first half of a character of more than sixteen bits. -/
def isHigh (n : Nat) : Bool := 0xD800 ≤ n && n ≤ 0xDBFF

/-- The second half of a character of more than sixteen bits. -/
def isLow (n : Nat) : Bool := 0xDC00 ≤ n && n ≤ 0xDFFF

/-- The bytes of the character with a number; a number without one stands for U+FFFD. -/
def bytesOf (n : Nat) : Text := Text.encodeChar (if n.isValidChar then Char.ofNat n else '\uFFFD')

/-- The text that fragments stand for; two halves in a row are one character. -/
def joined : List Fragment → Text
  | [] => []
  | .byte b :: rest => b :: joined rest
  | .number _ high :: .number letter low :: rest =>
    if isHigh high && isLow low then
      bytesOf (0x10000 + (high - 0xD800) * 0x400 + (low - 0xDC00)) ++ joined rest
    else bytesOf high ++ joined (.number letter low :: rest)
  | .number _ n :: rest => bytesOf n ++ joined rest

/-- The string that stands between two quotes. -/
def string? (body : Text) : Option Text :=
  if body.all (0x20 ≤ ·) then (Text.fragments? .json body).map joined else none

/-- Bytes stand for themselves. -/
theorem joined_bytes (t : Text) (more : List Fragment) : joined (t.map .byte ++ more) = t ++ joined more := by
  induction t with
  | nil => rfl
  | cons b t ih => rw [List.map_cons, List.cons_append, joined, ih]; rfl

/-- The number of a character stands for it, whatever follows. -/
theorem joined_number (letter : UInt8) (c : Char) (more : List Fragment) :
    joined (.number letter c.toNat :: more) = Text.encodeChar c ++ joined more := by
  have hvalid : c.toNat.isValidChar := c.valid
  have hbytes : bytesOf c.toNat = Text.encodeChar c := by
    rw [bytesOf, if_pos hvalid, Char.ofNat_toNat]
  have hhigh : isHigh c.toNat = false := by
    unfold Nat.isValidChar at hvalid
    simp only [isHigh, Bool.and_eq_false_iff, decide_eq_false_iff_not]
    omega
  cases more with
  | nil => simp only [joined, hbytes]
  | cons p more =>
    cases p with
    | byte b => simp only [joined, hbytes]
    | number letter' low => rw [joined, hhigh, Bool.false_and, if_neg Bool.false_ne_true, hbytes]

/-- A text between quotes is read as a character, and it has no bytes below the space. -/
structure Spells (t : Text) (c : Char) : Prop where
  fragments : ∃ fs, Spelling .json t fs ∧ ∀ more, joined (fs ++ more) = Text.encodeChar c ++ joined more
  plain : ∀ b ∈ t, 0x20 ≤ b.toNat

/-- An escape of one letter. -/
theorem spells_letter {c : Char} {letter : UInt8} (plain : UInt8)
    (hdigits : Text.Escaping.json.digits.lookup letter = none)
    (h : Text.Escaping.json.letters.lookup letter = some plain) (hletter : 0x20 ≤ letter.toNat)
    (hc : Text.encodeChar c = [plain]) : Spells [backslash, letter] c := by
  refine ⟨⟨_, .letter hdigits h, fun more => ?_⟩, ?_⟩
  · rw [hc]
    rfl
  · exact List.forall_mem_cons.mpr ⟨by decide, List.forall_mem_cons.mpr ⟨hletter, List.forall_mem_nil _⟩⟩

/-- Hexadecimal digits are above the space. -/
theorem plain_of_hexDigit? {b : UInt8} (h : (Text.hexDigit? b).isSome) : 0x20 ≤ b.toNat := by
  refine Nat.not_lt.mp fun hlow => ?_
  have hnone : Text.hexDigit? b = none := by
    simp only [Text.hexDigit?, Numeral.digit?]
    rw [if_neg (by simp; omega), if_neg (by simp; omega), if_neg (by simp; omega)]
    rfl
  rw [hnone] at h
  cases h

/-- A numeric escape. -/
theorem spells_number {c : Char} (hc : c.toNat < 0x10000) : Spells (numericEscape c.toNat) c := by
  have hdigits : Text.Escaping.json.digits.lookup (byte 'u') = some 4 := by decide
  refine ⟨⟨_, .number (by decide) hdigits hc, joined_number _ c⟩, ?_⟩
  have hmark : Text.ofString "\\u" = [backslash, byte 'u'] := by decide
  have hplain : ∀ b ∈ [backslash, byte 'u'], 0x20 ≤ b.toNat :=
    List.forall_mem_cons.mpr ⟨by decide, List.forall_mem_cons.mpr ⟨by decide, List.forall_mem_nil _⟩⟩
  intro b hb
  rcases List.mem_append.mp hb with hb | hb
  · rw [hmark] at hb
    exact hplain b hb
  · exact plain_of_hexDigit? (Text.hexDigit?_of_mem (Text.hexValue?_hex (by decide) hc).1 hb)

/-- A character that stands for itself. -/
theorem spells_verbatim {c : Char} (hquote : c ≠ '"') (hbackslash : c ≠ '\\') (hc : 0x20 ≤ c.toNat) :
    Spells (Text.encodeChar c) c := by
  refine ⟨⟨_, .verbatim (Text.unmarked_encodeChar hquote hbackslash), joined_bytes _⟩, fun b hb => ?_⟩
  by_cases hb' : b.toNat < 0x80
  · rw [Text.eq_of_mem_encodeChar hb' hb]
    exact hc
  · omega

/-- Every character is spelled so that it is read again. -/
theorem spells_escapeSymbol (c : Char) : Spells (escapeSymbol .document (.char c)) c := by
  have hletter : ∀ {letter : UInt8} (plain : UInt8), c.toNat = plain.toNat → plain.toNat < 0x80 →
      Text.Escaping.json.digits.lookup letter = none → Text.Escaping.json.letters.lookup letter = some plain →
      0x20 ≤ letter.toNat → Spells [backslash, letter] c := by
    intro letter plain hc hascii hdigits hplain hspace
    refine spells_letter plain hdigits hplain hspace ?_
    rw [Text.encodeChar, if_pos (hc ▸ hascii), Text.byte_eq hc]
  unfold escapeSymbol
  simp only [Escapes.document, Bool.and_true, Bool.true_and, Bool.or_eq_true, beq_iff_eq, decide_eq_true_eq]
  split
  · rename_i hmark
    rcases hmark with rfl | rfl
    · exact spells_letter (byte '"') (by decide) (by decide) (by decide) (by decide)
    · exact spells_letter backslash (by decide) (by decide) (by decide) (by decide)
  · rename_i hmark
    obtain ⟨hquote, hbackslash⟩ := not_or.mp hmark
    split
    · exact hletter 10 ‹_› (by decide) (by decide) (by decide) (by decide)
    · split
      · exact hletter 13 ‹_› (by decide) (by decide) (by decide) (by decide)
      · split
        · exact hletter 9 ‹_› (by decide) (by decide) (by decide) (by decide)
        · split
          · exact hletter 8 ‹_› (by decide) (by decide) (by decide) (by decide)
          · split
            · exact hletter 12 ‹_› (by decide) (by decide) (by decide) (by decide)
            · split
              · exact spells_number (by omega)
              · split
                · rename_i hmarkup
                  have hascii : c.toNat < 0x80 := by
                    rcases hmarkup with (rfl | rfl) | rfl <;> decide
                  exact spells_number (Nat.lt_trans hascii (by decide))
                · exact spells_verbatim hquote hbackslash (by omega)

/-- A text of characters is read back from between its quotes. -/
theorem string?_escaped {ss : List Symbol} (h : ∀ s ∈ ss, ∃ c, s = .char c) :
    string? (ss.flatMap (escapeSymbol .document)) = some (Text.ofSymbols ss) := by
  have hplain : (ss.flatMap (escapeSymbol .document)).all (0x20 ≤ ·) = true := by
    simp only [List.all_eq_true, List.mem_flatMap, decide_eq_true_eq, UInt8.le_iff_toNat_le]
    rintro b ⟨s, hs, hb⟩
    obtain ⟨c, rfl⟩ := h s hs
    exact (spells_escapeSymbol c).plain b hb
  rw [string?, if_pos hplain]
  refine Text.fragments?_flatMap rfl fun s hs => ?_
  obtain ⟨c, rfl⟩ := h s hs
  exact (spells_escapeSymbol c).fragments

/-! ## Values -/

/-- The bytes that are tokens of their own. -/
def marks : Text := "[]\x7b\x7d:,"

/-- A decimal digit. -/
def isDigit (b : UInt8) : Bool := 0x30 ≤ b && b ≤ 0x39

/-- The exponent of a numeral, if there is one. -/
def isExponent : Text → Bool
  | [] => true
  | mark :: rest =>
    let digits := if rest.head? = some (byte '+') ∨ rest.head? = some (byte '-') then rest.drop 1 else rest
    (mark == byte 'e' || mark == byte 'E') && !digits.isEmpty && digits.all isDigit

/-- A decimal numeral: no zeros in front, digits on both sides of the point. -/
def isNumeral (t : Text) : Bool :=
  let t := Text.dropLeading "-" t
  let whole := t.takeWhile isDigit
  let rest := t.dropWhile isDigit
  (whole.length == 1 || (!whole.isEmpty && whole.head? != some (byte '0'))) &&
    if rest.head? = some (byte '.') then
      let fraction := (rest.drop 1).takeWhile isDigit
      !fraction.isEmpty && isExponent ((rest.drop 1).dropWhile isDigit)
    else isExponent rest

/-- The value of a word. -/
def word? (t : Text) : Option Json :=
  if t = Text.ofString "null" then some .null
  else if t = Text.ofString "true" then some (.bool true)
  else if t = Text.ofString "false" then some (.bool false)
  else if isNumeral t then some (.number t)
  else none

/-- A collection that is still open, with the parts read so far. -/
inductive Frame where
  | items (before : List Json)
  /-- The value of a member is to come. -/
  | member (before : List (Text × Json)) (key : Text)

/-- What may come next. -/
inductive State where
  | value (stack : List Frame)
  | openedArray (stack : List Frame)
  | item (before : List Json) (stack : List Frame)
  | openedObject (stack : List Frame)
  | key (before : List (Text × Json)) (stack : List Frame)
  | colon (before : List (Text × Json)) (key : Text) (stack : List Frame)
  | member (before : List (Text × Json)) (stack : List Frame)
  | done (v : Json)

/-- A value is complete, and goes into the innermost open collection. -/
def deliver (v : Json) : List Frame → State
  | [] => .done v
  | .items before :: stack => .item (before ++ [v]) stack
  | .member before key :: stack => .member (before ++ [(key, v)]) stack

/-- A value starts. -/
def start (stack : List Frame) : Token → Option State
  | .mark '[' => some (.openedArray stack)
  | .mark '\x7b' => some (.openedObject stack)
  | .quoted body => (string? body).map fun t => deliver (.str t) stack
  | .word t => (word? t).map (deliver · stack)
  | _ => none

/-- Read one token. -/
def step : State → Token → Option State
  | .value stack, token => start stack token
  | .openedArray stack, .mark ']' => some (deliver (.array []) stack)
  | .openedArray stack, token => start (.items [] :: stack) token
  | .item before stack, .mark ',' => some (.value (.items before :: stack))
  | .item before stack, .mark ']' => some (deliver (.array before) stack)
  | .openedObject stack, .mark '\x7d' => some (deliver (.object []) stack)
  | .openedObject stack, .quoted body => (string? body).map fun key => .colon [] key stack
  | .key before stack, .quoted body => (string? body).map fun key => .colon before key stack
  | .colon before key stack, .mark ':' => some (.value (.member before key :: stack))
  | .member before stack, .mark ',' => some (.key before stack)
  | .member before stack, .mark '\x7d' => some (deliver (.object before) stack)
  | _, _ => none

/-- The value of a JSON text. -/
def decode? (t : Text) : Option Json := do
  let tokens ← Lexing.tokens? marks t
  match ← tokens.foldlM step (.value []) with
  | .done v => some v
  | _ => none

/-! ## Values that were laid out -/

/-- A text spells a value: its tokens are read as the value, whatever is open around it. -/
def Reads (t : Text) (v : Json) : Prop :=
  ∃ tokens, Lexing.scan marks .between t = (tokens, .between) ∧
    ∀ stack, tokens.foldlM step (.value stack) = some (deliver v stack)

/-- What a text spells is its value. -/
theorem Reads.decode {t : Text} {v : Json} (h : Reads t v) : decode? t = some v := by
  obtain ⟨tokens, hscan, hread⟩ := h
  have htokens : Lexing.tokens? marks t = some tokens := by rw [Lexing.tokens?, hscan]
  rw [decode?, htokens, Option.bind_eq_bind, Option.bind_some, hread]
  rfl

/-- A line break at the end of a text does not change what it spells. -/
theorem Reads.lineBreak {t : Text} {v : Json} (h : Reads t v) : Reads (t ++ Text.ofString "\n") v := by
  obtain ⟨tokens, hscan, hread⟩ := h
  have hblank : Lexing.scan marks .between (Text.ofString "\n") = ([], .between) := by decide
  refine ⟨tokens, ?_, hread⟩
  rw [Lexing.scan_append hscan hblank, List.append_nil]

/-- A text of characters between quotes is one token, which is read as the text. -/
theorem reads_quoted {t : Text} (h : Text.isUtf8 t = true) :
    ∃ body, Lexing.scan marks .between (quoted .document t) = ([.quoted body], .between) ∧
      string? body = some t := by
  have hchars := Text.chars_of_isUtf8 h
  refine ⟨_, Lexing.scan_quotes (e := .json) fun s hs => ?_, ?_⟩
  · obtain ⟨c, rfl⟩ := hchars s hs
    obtain ⟨fs, hspelling, -⟩ := (spells_escapeSymbol c).fragments
    exact ⟨fs, hspelling⟩
  · rw [string?_escaped hchars, Text.ofSymbols_symbols]

/-- A string is read back. -/
theorem reads_str {t : Text} (h : Text.isUtf8 t = true) (level : Nat) :
    Reads ((Json.str t).pretty .document level) (.str t) := by
  obtain ⟨body, hscan, hstring⟩ := reads_quoted h
  refine ⟨_, hscan, fun stack => ?_⟩
  simp only [List.foldlM_cons, List.foldlM_nil, step, start, hstring]
  rfl

/-- A kind of collections with parts of some type: its brackets, and how its parts are read. -/
structure Collection (α : Type) where
  opening : Char
  closing : Char
  value : List α → Json
  opened : List Frame → State
  /-- The next part is to come. -/
  next : List α → List Frame → State
  /-- A part was just read. -/
  after : List α → List Frame → State
  scan_opening : Lexing.scan marks .between [byte opening] = ([.mark opening], .between)
  scan_closing : Lexing.scan marks .between [byte closing] = ([.mark closing], .between)
  step_opening : ∀ stack, step (.value stack) (.mark opening) = some (opened stack)
  step_empty : ∀ stack, step (opened stack) (.mark closing) = some (deliver (value []) stack)
  step_first : ∀ stack token state, step (next [] stack) token = some state →
    step (opened stack) token = some state
  step_comma : ∀ before stack, step (after before stack) (.mark ',') = some (next before stack)
  step_closing : ∀ before stack, step (after before stack) (.mark closing) = some (deliver (value before) stack)
  next_ne_after : ∀ before before' stack, next before stack ≠ after before' stack

/-- Arrays with their items. -/
def Collection.array : Collection Json where
  opening := '['
  closing := ']'
  value := .array
  opened := .openedArray
  next before stack := .value (.items before :: stack)
  after := .item
  scan_opening := by decide
  scan_closing := by decide
  step_opening _ := rfl
  step_empty _ := rfl
  step_first stack token state h := by
    by_cases hclosing : token = .mark ']'
    · subst hclosing
      cases h
    · rw [← h]
      simp [step]
  step_comma _ _ := rfl
  step_closing _ _ := rfl
  next_ne_after := nofun

/-- Objects with their members. -/
def Collection.object : Collection (Text × Json) where
  opening := '\x7b'
  closing := '\x7d'
  value := .object
  opened := .openedObject
  next := .key
  after := .member
  scan_opening := by decide
  scan_closing := by decide
  step_opening _ := rfl
  step_empty _ := rfl
  step_first stack token state h := by
    cases token with
    | quoted body => exact h
    | mark c => cases h
    | word t => cases h
  step_comma _ _ := rfl
  step_closing _ _ := rfl
  next_ne_after := nofun

section Parts

variable {α : Type} {c : Collection α} {part : α → Text} {items : List α}

/-- A text spells a part of a collection, whatever parts came before it. -/
def Collection.ReadsPart (c : Collection α) (t : Text) (a : α) : Prop :=
  ∃ tokens, Lexing.scan marks .between t = (tokens, .between) ∧
    ∀ before stack, tokens.foldlM step (c.next before stack) = some (c.after (before ++ [a]) stack)

/-- Parts with separators between them are read in turn. -/
theorem reads_joined {separator : Text} (hseparator : Lexing.scan marks .between separator = ([.mark ','], .between))
    (hne : items ≠ []) (h : ∀ a ∈ items, c.ReadsPart (part a) a) :
    ∃ tokens, Lexing.scan marks .between (Text.joinWith separator (items.map part)) = (tokens, .between) ∧
      ∀ before stack, tokens.foldlM step (c.next before stack) = some (c.after (before ++ items) stack) := by
  induction items with
  | nil => exact absurd rfl hne
  | cons a items ih =>
    obtain ⟨ha, hitems⟩ := List.forall_mem_cons.mp h
    cases items with
    | nil => exact ha
    | cons b items =>
      obtain ⟨tokens, hscan, hread⟩ := ha
      obtain ⟨later, hscan', hread'⟩ := ih (List.cons_ne_nil _ _) hitems
      refine ⟨_, Lexing.scan_append (Lexing.scan_append hscan hseparator) hscan', fun before stack => ?_⟩
      rw [List.foldlM_append, List.foldlM_append, hread]
      simp only [List.foldlM_cons, List.foldlM_nil, Option.bind_eq_bind, Option.bind_some, c.step_comma]
      simp only [Option.pure_def, Option.bind_some, hread', List.append_assoc, List.singleton_append]

/-- After the opening bracket a first part is read as a next one. -/
theorem Collection.read_first {tokens : List Token} {stack : List Frame}
    (h : tokens.foldlM step (c.next [] stack) = some (c.after items stack)) :
    tokens.foldlM step (c.opened stack) = some (c.after items stack) := by
  cases tokens with
  | nil => exact absurd (Option.some.inj h) (c.next_ne_after _ _ _)
  | cons token tokens =>
    rw [List.foldlM_cons] at h ⊢
    obtain ⟨state, hstate, hrest⟩ := Option.bind_eq_some_iff.mp h
    rw [c.step_first _ _ _ hstate]
    exact hrest

/-- A line break with its indentation is blank. -/
theorem scan_lineAt (level : Nat) : Lexing.scan marks .between (lineAt level) = ([], .between) := by
  refine Lexing.scan_blanks fun b hb => ?_
  rcases List.mem_append.mp hb with hb | hb
  · rw [show Text.ofString "\n" = [0x0A] by decide, List.mem_singleton] at hb
    rw [hb]
    rfl
  · rw [List.eq_of_mem_replicate hb]
    rfl

/-- A collection whose parts stand on lines of their own is read back. -/
theorem reads_onLines (h : ∀ a ∈ items, c.ReadsPart (part a) a) (level : Nat) :
    Reads (onLines level [byte c.opening] [byte c.closing] (items.map part)) (c.value items) := by
  unfold onLines
  by_cases hne : items = []
  · subst hne
    refine ⟨_, Lexing.scan_append c.scan_opening c.scan_closing, fun stack => ?_⟩
    simp only [List.singleton_append, List.foldlM_cons, List.foldlM_nil, c.step_opening, c.step_empty,
      Option.bind_eq_bind, Option.bind_some]
    rfl
  · rw [if_neg (by simpa using hne)]
    have hcomma : Lexing.scan marks .between (Text.ofString ",") = ([.mark ','], .between) := by decide
    obtain ⟨tokens, hscan, hread⟩ :=
      reads_joined (Lexing.scan_append hcomma (scan_lineAt (level + 1))) hne h
    refine ⟨_, Lexing.scan_append (Lexing.scan_append (Lexing.scan_append
      (Lexing.scan_append c.scan_opening (scan_lineAt _)) hscan) (scan_lineAt _)) c.scan_closing,
      fun stack => ?_⟩
    simp only [List.append_nil, List.foldlM_append, List.foldlM_cons, List.foldlM_nil, c.step_opening,
      Option.bind_eq_bind, Option.bind_some, Option.pure_def, c.read_first (hread [] stack), c.step_closing]
    rfl

end Parts

/-- The items of an array are laid out one by one. -/
theorem prettyItems_eq_map (e : Escapes) (level : Nat) (items : List Json) :
    prettyItems e level items = items.map (·.pretty e level) := by
  induction items with
  | nil => rfl
  | cons v items ih => rw [prettyItems, ih, List.map_cons]

/-- The members of an object are laid out one by one. -/
theorem prettyMembers_eq_map (e : Escapes) (level : Nat) (members : List (Text × Json)) :
    prettyMembers e level members = members.map fun m => quoted e m.1 ++ Text.ofString ": " ++ m.2.pretty e level := by
  induction members with
  | nil => rfl
  | cons m members ih => rw [prettyMembers, ih, List.map_cons]

/-- An array is read back when its items are. -/
theorem reads_array {level : Nat} {items : List Json}
    (h : ∀ v ∈ items, Reads (v.pretty .document (level + 1)) v) :
    Reads ((Json.array items).pretty .document level) (.array items) := by
  rw [pretty, prettyItems_eq_map]
  refine reads_onLines (c := .array) (fun v hv => ?_) level
  obtain ⟨tokens, hscan, hread⟩ := h v hv
  exact ⟨tokens, hscan, fun before stack => hread _⟩

/-- An object is read back when the values of its members are. -/
theorem reads_object {level : Nat} {members : List (Text × Json)}
    (h : ∀ m ∈ members, Text.isUtf8 m.1 = true ∧ Reads (m.2.pretty .document (level + 1)) m.2) :
    Reads ((Json.object members).pretty .document level) (.object members) := by
  rw [pretty, prettyMembers_eq_map]
  refine reads_onLines (c := .object) (fun m hm => ?_) level
  obtain ⟨hkey, tokens, hscan, hread⟩ := h m hm
  obtain ⟨body, hquoted, hstring⟩ := reads_quoted hkey
  have hcolon : Lexing.scan marks .between (Text.ofString ": ") = ([.mark ':'], .between) := by decide
  refine ⟨.quoted body :: .mark ':' :: tokens, Lexing.scan_append (Lexing.scan_append hquoted hcolon) hscan,
    fun before stack => ?_⟩
  have hstart : step (.key before stack) (.quoted body) = some (.colon before m.1 stack) := by
    rw [step, hstring]
    rfl
  have hnext : step (.colon before m.1 stack) (.mark ':') = some (.value (.member before m.1 :: stack)) := rfl
  change List.foldlM step (.key before stack) _ = _
  simp only [List.foldlM_cons, hstart, hnext, Option.bind_eq_bind, Option.bind_some, hread]
  rfl

end Json

end RoleGraph
