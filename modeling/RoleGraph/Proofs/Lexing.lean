import RoleGraph.Proofs.Spelling

/-!
# Tokens of a text

A text with quoted parts is cut into tokens byte by byte: single marks, words, and what stands between
two quotes. A backslash keeps the byte after it from being taken for the closing quote; escapes are not
looked into any further. The tokens of a text are put together from those of its parts, as long as each
part is scanned from where the one before it ended.
-/

namespace RoleGraph

namespace Lexing

open Text (backslash byte)

/-- A token of a text. -/
inductive Token where
  | mark (c : Char)
  /-- What stands between two quotes, with its escapes. -/
  | quoted (body : Text)
  | word (t : Text)
  deriving DecidableEq, Repr

/-- Where a scan is: between tokens, or inside of one of which some bytes have been read. -/
inductive Mode where
  | between
  | word (read : Text)
  | quoted (read : Text)
  /-- After a backslash inside of quotes. -/
  | escaped (read : Text)
  deriving DecidableEq, Repr

/-- A byte that separates tokens. -/
def isBlank (b : UInt8) : Bool := b == 0x20 || b == 0x09 || b == 0x0A || b == 0x0D

variable (marks : Text)

/-- The first byte after a token. -/
def enter (b : UInt8) : List Token × Mode :=
  if isBlank b then ([], .between)
  else if b = byte '"' then ([], .quoted [])
  else if b ∈ marks then ([.mark (Char.ofNat b.toNat)], .between)
  else ([], .word [b])

/-- Whether a byte is no part of a word. -/
def endsWord (b : UInt8) : Bool := isBlank b || b == byte '"' || marks.contains b

/-- The tokens that one more byte completes. -/
def step : Mode → UInt8 → List Token × Mode
  | .between, b => enter marks b
  | .word read, b =>
    if endsWord marks b then (.word read :: (enter marks b).1, (enter marks b).2)
    else ([], .word (read ++ [b]))
  | .quoted read, b =>
    if b = byte '"' then ([.quoted read], .between)
    else if b = backslash then ([], .escaped (read ++ [b]))
    else ([], .quoted (read ++ [b]))
  | .escaped read, b => ([], .quoted (read ++ [b]))

/-- The tokens that a text completes. -/
def scan : Mode → Text → List Token × Mode
  | m, [] => ([], m)
  | m, b :: rest =>
    ((step marks m b).1 ++ (scan (step marks m b).2 rest).1, (scan (step marks m b).2 rest).2)

/-- The tokens of a whole text, in which every quote is closed. -/
def tokens? (t : Text) : Option (List Token) :=
  match scan marks .between t with
  | (ts, .between) => some ts
  | (ts, .word read) => some (ts ++ [.word read])
  | _ => none

variable {marks : Text} {m m' m'' : Mode} {t u : Text} {ts us : List Token}

/-- Two parts of a text are scanned one after the other. -/
theorem scan_append (h : scan marks m t = (ts, m')) (h' : scan marks m' u = (us, m'')) :
    scan marks m (t ++ u) = (ts ++ us, m'') := by
  induction t generalizing m ts with
  | nil =>
    obtain ⟨rfl, rfl⟩ := Prod.mk.inj h
    exact h'
  | cons b t ih =>
    obtain ⟨hts, hm⟩ := Prod.mk.inj h
    have hrest := ih (Prod.ext rfl hm)
    rw [List.cons_append, scan, hrest, ← hts, List.append_assoc]

/-- Parts of a text that begin and end between tokens. -/
theorem scan_flatMap {α : Type} {f : α → Text} {g : α → List Token} {items : List α}
    (h : ∀ a ∈ items, scan marks .between (f a) = (g a, .between)) :
    scan marks .between (items.flatMap f) = (items.flatMap g, .between) := by
  induction items with
  | nil => rfl
  | cons a items ih =>
    obtain ⟨ha, hitems⟩ := List.forall_mem_cons.mp h
    exact scan_append ha (ih hitems)

/-- Blanks are passed over. -/
theorem scan_blanks (h : ∀ b ∈ t, isBlank b = true) : scan marks .between t = ([], .between) := by
  induction t with
  | nil => rfl
  | cons b t ih =>
    obtain ⟨hb, ht⟩ := List.forall_mem_cons.mp h
    have hstep : step marks .between b = ([], .between) := by rw [step, enter, if_pos hb]
    rw [scan, hstep]
    exact ih ht

/-! ## Quoted parts -/

/-- A text without marks stays between its quotes. -/
theorem scan_unmarked (h : Text.Unmarked t) (read : Text) :
    scan marks (.quoted read) t = ([], .quoted (read ++ t)) := by
  induction t generalizing read with
  | nil => rw [scan, List.append_nil]
  | cons b t ih =>
    obtain ⟨hb, ht⟩ := List.forall_mem_cons.mp h
    have hstep : step marks (.quoted read) b = ([], .quoted (read ++ [b])) := by
      rw [step, if_neg hb.2, if_neg hb.1]
    rw [scan, hstep, ih ht, List.append_assoc]
    rfl

/-- An escape stays between its quotes. -/
theorem scan_escape (letter : UInt8) (h : Text.Unmarked t) (read : Text) :
    scan marks (.quoted read) (backslash :: letter :: t) =
      ([], .quoted (read ++ backslash :: letter :: t)) := by
  have hstep : scan marks (.quoted read) [backslash, letter] = ([], .quoted (read ++ [backslash, letter])) := by
    simp [scan, step, show backslash ≠ byte '"' by decide]
  have h' := scan_append hstep (scan_unmarked h (read ++ [backslash, letter]))
  rwa [List.append_assoc] at h'

/-- What is spelled stays between its quotes. -/
theorem scan_spelling {e : Text.Escaping} {fs : List Text.Fragment} (h : Text.Spelling e t fs) (read : Text) :
    scan marks (.quoted read) t = ([], .quoted (read ++ t)) := by
  cases h with
  | verbatim h => exact scan_unmarked h read
  | letter hdigits h => exact scan_escape _ (List.forall_mem_nil _) read
  | number hpos h hn => exact scan_escape _ (Text.unmarked_hex hpos hn) read

/-- A text that is spelled between quotes is one token. -/
theorem scan_quotes {e : Text.Escaping} {spell : Symbol → Text} {ss : List Symbol}
    (h : ∀ s ∈ ss, ∃ fs, Text.Spelling e (spell s) fs) :
    scan marks .between (byte '"' :: (ss.flatMap spell ++ [byte '"'])) =
      ([.quoted (ss.flatMap spell)], .between) := by
  have hbody : ∀ read, scan marks (.quoted read) (ss.flatMap spell) =
      ([], .quoted (read ++ ss.flatMap spell)) := by
    induction ss with
    | nil =>
      intro read
      rw [List.flatMap_nil, List.append_nil]
      rfl
    | cons s ss ih =>
      intro read
      obtain ⟨⟨fs, hspelling⟩, hrest⟩ := List.forall_mem_cons.mp h
      have hsymbol : scan marks (.quoted read) (spell s) = ([], .quoted (read ++ spell s)) :=
        scan_spelling hspelling read
      have hcons := scan_append hsymbol (ih hrest _)
      rwa [List.append_assoc] at hcons
  have hopen : scan marks .between [byte '"'] = ([], .quoted []) := by
    simp [scan, step, enter, show isBlank (byte '"') = false by decide]
  have hclose : ∀ read, scan marks (.quoted read) [byte '"'] = ([.quoted read], .between) := by
    intro read
    simp [scan, step]
  exact scan_append hopen (scan_append (hbody []) (hclose _))

/-- A quoted text is one token. -/
theorem scan_quote (t : Text) :
    scan marks .between (Text.quote t) = ([.quoted (Text.spelled t)], .between) :=
  scan_quotes fun s _ => (Text.spelling_quoteSymbol s).imp fun _ h => h.1

end Lexing

end RoleGraph
