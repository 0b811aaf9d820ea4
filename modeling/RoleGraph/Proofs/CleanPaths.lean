import RoleGraph.Proofs.NodeIdentity

/-!
# Cleaned paths

A path is cut at its slashes, and cleaning resolves the pieces on a stack. The pieces that remain are
not empty, are not `.`, and have no slash, so a cleaned path can be cut again at the same places. A
path that never climbs above its start does the same to every stack: below a directory it adds its
own resolved pieces, whatever those of the directory are.
-/

namespace RoleGraph

open Text (slash)

namespace Text

variable {sep : UInt8}

/-- A separator at the start cuts off an empty piece. -/
theorem splitAt_cons_self (rest : Text) : splitAt sep (sep :: rest) = [] :: splitAt sep rest := by
  rw [splitAt, if_pos rfl]

/-- Any other byte belongs to the first piece. -/
theorem splitAt_cons_of_ne {b : UInt8} {rest piece : Text} {pieces : List Text} (hb : b ≠ sep)
    (h : splitAt sep rest = piece :: pieces) : splitAt sep (b :: rest) = (b :: piece) :: pieces := by
  rw [splitAt, if_neg hb, h]

/-- A text without the separator is one piece. -/
theorem splitAt_of_notMem {t : Text} (h : sep ∉ t) : splitAt sep t = [t] := by
  induction t with
  | nil => rfl
  | cons b rest ih =>
    have hb : b ≠ sep := fun heq => h (heq ▸ List.mem_cons_self)
    exact splitAt_cons_of_ne hb (ih fun hrest => h (List.mem_cons_of_mem b hrest))

/-- Around a separator the two sides are cut apart. -/
theorem splitAt_append_cons (a b : Text) :
    splitAt sep (a ++ sep :: b) = splitAt sep a ++ splitAt sep b := by
  induction a with
  | nil => exact splitAt_cons_self b
  | cons c rest ih =>
    by_cases hc : c = sep
    · rw [hc, List.cons_append, splitAt_cons_self, splitAt_cons_self, ih, List.cons_append]
    · obtain ⟨piece, pieces, hpieces⟩ := List.exists_cons_of_ne_nil (splitAt_ne_nil sep rest)
      rw [hpieces, List.cons_append] at ih
      rw [List.cons_append, splitAt_cons_of_ne hc ih, splitAt_cons_of_ne hc hpieces, List.cons_append]

/-- No piece has the separator. -/
theorem notMem_of_mem_splitAt {t piece : Text} (h : piece ∈ splitAt sep t) : sep ∉ piece := by
  induction t generalizing piece with
  | nil =>
    rw [List.mem_singleton.mp h]
    exact List.not_mem_nil
  | cons b rest ih =>
    by_cases hb : b = sep
    · rw [hb, splitAt_cons_self] at h
      rcases List.mem_cons.mp h with rfl | h
      · exact List.not_mem_nil
      · exact ih h
    · obtain ⟨first, pieces, hpieces⟩ := List.exists_cons_of_ne_nil (splitAt_ne_nil sep rest)
      rw [splitAt_cons_of_ne hb hpieces] at h
      rw [hpieces] at ih
      rcases List.mem_cons.mp h with rfl | h
      · rintro (_ | ⟨_, hmem⟩)
        · exact hb rfl
        · exact ih List.mem_cons_self hmem
      · exact ih (List.mem_cons_of_mem _ h)

/-- A text is joined to others with the separator in between. -/
theorem joinWith_cons {part : Text} {rest : List Text} (h : rest ≠ []) (t : Text) :
    joinWith part (t :: rest) = t ++ part ++ joinWith part rest := by
  cases rest with
  | nil => contradiction
  | cons u more => rfl

/-- Joined pieces without the separator are cut where they were joined. -/
theorem splitAt_joinWith {pieces : List Text} (hne : pieces ≠ []) (h : ∀ t ∈ pieces, sep ∉ t) :
    splitAt sep (joinWith [sep] pieces) = pieces := by
  induction pieces with
  | nil => contradiction
  | cons t rest ih =>
    have ht : splitAt sep t = [t] := splitAt_of_notMem (h t List.mem_cons_self)
    by_cases hrest : rest = []
    · rw [hrest]
      exact ht
    · rw [joinWith_cons hrest, List.append_assoc, List.singleton_append, splitAt_append_cons, ht,
        ih hrest fun u hu => h u (List.mem_cons_of_mem t hu), List.singleton_append]

/-- The pieces of a text, joined, are the text. -/
theorem joinWith_splitAt (t : Text) : joinWith [sep] (splitAt sep t) = t := by
  induction t with
  | nil => rfl
  | cons b rest ih =>
    by_cases hb : b = sep
    · rw [hb, splitAt_cons_self, joinWith_cons (splitAt_ne_nil sep rest), ih]
      rfl
    · obtain ⟨piece, pieces, hpieces⟩ := List.exists_cons_of_ne_nil (splitAt_ne_nil sep rest)
      rw [splitAt_cons_of_ne hb hpieces]
      rw [hpieces] at ih
      by_cases hnil : pieces = []
      · rw [hnil] at ih ⊢
        exact congrArg (b :: ·) ih
      · rw [joinWith_cons hnil] at ih ⊢
        exact congrArg (b :: ·) ih

/-- Joined pieces start with the first one and end with the last one. -/
theorem joinWith_ends (part : Text) {first last : Text} {pieces : List Text} (hhead : pieces.head? = some first)
    (hlast : pieces.getLast? = some last) :
    (∃ after, joinWith part pieces = first ++ after) ∧ ∃ before, joinWith part pieces = before ++ last := by
  induction pieces generalizing first with
  | nil => contradiction
  | cons t rest ih =>
    obtain rfl : t = first := Option.some.inj hhead
    cases rest with
    | nil =>
      obtain rfl : t = last := Option.some.inj hlast
      exact ⟨⟨[], (List.append_nil _).symm⟩, ⟨[], rfl⟩⟩
    | cons u more =>
      obtain ⟨-, before, hbefore⟩ := ih rfl hlast
      rw [joinWith_cons (List.cons_ne_nil u more)]
      exact ⟨⟨_, List.append_assoc _ _ _⟩, ⟨t ++ part ++ before, by rw [hbefore, ← List.append_assoc]⟩⟩

end Text

namespace Location

variable {rooted : Bool} {stack pieces : List Text} {piece p q : Text}

/-- What cleaning leaves of a path between two slashes. -/
structure Resolved (segment : Text) : Prop where
  ne_nil : segment ≠ []
  ne_here : segment ≠ here
  slash_free : slash ∉ segment

/-- An empty piece and a `.` change nothing. -/
theorem push_dropped (h : piece = [] ∨ piece = here) : push rooted stack piece = stack := by
  unfold push
  rw [if_pos h]

/-- A step up from the start is kept, except at the root. -/
theorem push_up_nil : push rooted [] up = if rooted then [] else [up] := by
  rw [push, if_neg (by decide), if_pos rfl]

/-- A step up takes back the last segment, unless that is a step up itself. -/
theorem push_up_cons (top : Text) (rest : List Text) :
    push rooted (top :: rest) up = if top = up then up :: top :: rest else rest := by
  rw [push, if_neg (by decide), if_pos rfl]

/-- Any other piece is a new segment. -/
theorem push_kept (h : ¬ (piece = [] ∨ piece = here)) (hup : piece ≠ up) :
    push rooted stack piece = piece :: stack := by
  unfold push
  rw [if_neg h, if_neg hup]

/-- Pushing a piece keeps a stack resolved. -/
theorem resolved_of_mem_push (hstack : ∀ s ∈ stack, Resolved s) (hpiece : slash ∉ piece) :
    ∀ s ∈ push rooted stack piece, Resolved s := by
  by_cases hdrop : piece = [] ∨ piece = here
  · rwa [push_dropped hdrop]
  have hresolved : Resolved piece := ⟨fun h => hdrop (Or.inl h), fun h => hdrop (Or.inr h), hpiece⟩
  by_cases hup : piece = up
  · subst hup
    cases stack with
    | nil =>
      rw [push_up_nil]
      cases rooted with
      | true => exact hstack
      | false => exact List.forall_mem_singleton.mpr hresolved
    | cons top rest =>
      rw [push_up_cons]
      split_ifs with htop
      · exact List.forall_mem_cons.mpr ⟨hresolved, hstack⟩
      · exact (List.forall_mem_cons.mp hstack).2
  · rw [push_kept hdrop hup]
    exact List.forall_mem_cons.mpr ⟨hresolved, hstack⟩

/-- Pushing pieces keeps a stack resolved. -/
theorem resolved_of_mem_foldl_push (hstack : ∀ s ∈ stack, Resolved s) (hpieces : ∀ t ∈ pieces, slash ∉ t) :
    ∀ s ∈ pieces.foldl (push rooted) stack, Resolved s := by
  induction pieces generalizing stack with
  | nil => exact hstack
  | cons t rest ih =>
    exact ih (resolved_of_mem_push hstack (hpieces t List.mem_cons_self))
      fun u hu => hpieces u (List.mem_cons_of_mem t hu)

/-- The segments of a path are resolved. -/
theorem resolved_of_mem_segments : ∀ s ∈ segments p, Resolved s := by
  intro s hs
  exact resolved_of_mem_foldl_push (by simp) (fun t ht => Text.notMem_of_mem_splitAt ht) s
    (List.mem_reverse.mp hs)

/-- A step up that was kept is never taken back. -/
theorem up_mem_push (h : up ∈ stack) : up ∈ push rooted stack piece := by
  by_cases hdrop : piece = [] ∨ piece = here
  · rwa [push_dropped hdrop]
  by_cases hup : piece = up
  · subst hup
    obtain ⟨top, rest, rfl⟩ := List.exists_cons_of_ne_nil (List.ne_nil_of_mem h)
    rw [push_up_cons]
    split_ifs with htop
    · exact List.mem_cons_self
    · exact (List.mem_cons.mp h).resolve_left (Ne.symm htop)
  · rw [push_kept hdrop hup]
    exact List.mem_cons_of_mem _ h

/-- Steps up that were kept are never taken back. -/
theorem up_mem_foldl_push (h : up ∈ stack) : up ∈ pieces.foldl (push rooted) stack := by
  induction pieces generalizing stack with
  | nil => exact h
  | cons t rest ih => exact ih (up_mem_push h)

/-- Without steps up that are kept, a piece does the same above any stack. -/
theorem push_append (above : List Text) (h : up ∉ push false stack piece) :
    push rooted (stack ++ above) piece = push false stack piece ++ above := by
  by_cases hdrop : piece = [] ∨ piece = here
  · rw [push_dropped hdrop, push_dropped hdrop]
  by_cases hup : piece = up
  · subst hup
    cases stack with
    | nil => exact absurd (List.mem_singleton_self up) h
    | cons top rest =>
      rw [push_up_cons] at h
      rw [List.cons_append, push_up_cons, push_up_cons]
      split_ifs at h ⊢ with htop
      · exact absurd List.mem_cons_self h
      · rfl
  · rw [push_kept hdrop hup, push_kept hdrop hup, List.cons_append]

/-- Without steps up that are kept, pieces do the same above any stack. -/
theorem foldl_push_append (above : List Text) (h : up ∉ pieces.foldl (push false) stack) :
    pieces.foldl (push rooted) (stack ++ above) = pieces.foldl (push false) stack ++ above := by
  induction pieces generalizing stack with
  | nil => rfl
  | cons t rest ih =>
    rw [List.foldl_cons] at h ⊢
    rw [push_append above fun hup => h (up_mem_foldl_push hup), ih h, List.foldl_cons]

/-- The segments that a path has below a directory, where a slash in front means nothing. -/
def descent (p : Text) : List Text := ((Text.splitAt slash p).foldl (push false) []).reverse

/-- Below any directory a path leads to a place strictly inside it. -/
structure StaysBelow (p : Text) : Prop where
  ne_nil : descent p ≠ []
  no_climb : up ∉ descent p

/-- Whether a path stays below is read off its segments. -/
instance (p : Text) : Decidable (StaysBelow p) :=
  decidable_of_iff (descent p ≠ [] ∧ up ∉ descent p) ⟨fun ⟨h, h'⟩ => ⟨h, h'⟩, fun h => ⟨h.ne_nil, h.no_climb⟩⟩

/-- A path that stays below has the same segments with and without a slash in front. -/
theorem segments_of_staysBelow (h : StaysBelow p) : segments p = descent p := by
  have hclimb : up ∉ (Text.splitAt slash p).foldl (push false) [] := by
    have h := h.no_climb
    rwa [descent, List.mem_reverse] at h
  have hpush : (Text.splitAt slash p).foldl (push (isRooted p)) ([] ++ []) = _ := foldl_push_append [] hclimb
  rw [List.append_nil, List.append_nil] at hpush
  rw [segments, hpush, descent]

/-- A path that stays below a directory adds its segments to those of the directory. -/
theorem segments_below {dir : Text} (hdir : dir ≠ []) (h : StaysBelow p) :
    segments (dir ++ slash :: p) = segments dir ++ descent p := by
  have hclimb : up ∉ (Text.splitAt slash p).foldl (push false) [] := by
    have h := h.no_climb
    rwa [descent, List.mem_reverse] at h
  have hrooted : isRooted (dir ++ slash :: p) = isRooted dir := by
    rw [isRooted, isRooted, List.head?_append_of_ne_nil _ hdir]
  rw [segments, hrooted, Text.splitAt_append_cons, List.foldl_append]
  have hpush : (Text.splitAt slash p).foldl (push (isRooted dir))
      ([] ++ (Text.splitAt slash dir).foldl (push (isRooted dir)) []) = _ := foldl_push_append _ hclimb
  rw [List.nil_append] at hpush
  rw [hpush, List.reverse_append, segments, descent]

/-- The segments of a path, joined, are empty when there are none. -/
theorem joinWith_segments_eq_nil : Text.joinWith [slash] (segments p) = [] ↔ segments p = [] := by
  constructor
  · intro h
    by_contra hne
    obtain ⟨first, rest, hfirst⟩ := List.exists_cons_of_ne_nil hne
    have hsplit := Text.splitAt_joinWith hne fun s hs => (resolved_of_mem_segments s hs).slash_free
    rw [h, hfirst] at hsplit
    have hresolved := resolved_of_mem_segments (p := p) first (hfirst ▸ List.mem_cons_self)
    exact hresolved.ne_nil (List.cons.inj hsplit).1.symm
  · intro h
    rw [h]
    rfl

/-- A cleaned path is not empty. -/
theorem clean_ne_nil (p : Text) : clean p ≠ [] := by
  unfold clean
  dsimp only
  split_ifs with hrooted hempty
  · exact List.cons_ne_nil _ _
  · decide
  · exact hempty

/-- The cleaned form of a path with segments is these, joined, behind a slash if the path has one. -/
theorem clean_of_segments (h : segments p ≠ []) :
    clean p = (if isRooted p then [slash] else []) ++ Text.joinWith [slash] (segments p) := by
  unfold clean
  dsimp only
  split_ifs with hrooted hempty
  · rfl
  · exact absurd (joinWith_segments_eq_nil.mp hempty) h
  · rfl

/-- Paths with segments that start alike are cleaned to one form only when their segments are the
same. -/
theorem segments_eq_of_clean (hp : segments p ≠ []) (hq : segments q ≠ []) (hrooted : isRooted p = isRooted q)
    (h : clean p = clean q) : segments p = segments q := by
  rw [clean_of_segments hp, clean_of_segments hq, hrooted] at h
  have hjoin := List.append_cancel_left h
  rw [← Text.splitAt_joinWith hp fun s hs => (resolved_of_mem_segments s hs).slash_free, hjoin,
    Text.splitAt_joinWith hq fun s hs => (resolved_of_mem_segments s hs).slash_free]

end Location

end RoleGraph
