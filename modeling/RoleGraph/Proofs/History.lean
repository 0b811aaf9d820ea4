import RoleGraph.Analysis.Run
import RoleGraph.Proofs.Memo
import RoleGraph.Proofs.Mirror

/-!
# Histories of an analyzer

An analyzer is asked for playbooks and for directories, one request after the other, and every
request starts from what the ones before it left, failed ones included. A directory is the playbooks
that are found in it, up to the first failure. What a history leaves behind is the trace of its
requests, so an invariant of single playbooks is one of all histories.
-/

namespace RoleGraph

open Analysis (Progress Visit Trace Mirrors Settled)

/-- What an analyzer is asked for: the playbook at a location, or all those below a root. -/
inductive Request where
  | playbook (location : Text)
  | directory (root : Text)

namespace Request

variable (a : Analyzer) (s : Site)

/-- Do what is asked for. -/
def perform : Request → Analysis.Step Analyzer.DirectoryError Unit
  | .playbook location => Analysis.wrapping .playbook (a.playbook s location)
  | .directory root => a.directory s root

/-- The locations of the playbooks that are asked for, in order. -/
def locations : Request → Except Candidates.Failure (List Text)
  | .playbook location => .ok [location]
  | .directory root =>
    (Candidates.find s a.options.rolesDir a.matcher a.excludes (Location.normalize s.cwd root)).map
      Candidates.sorted

/-- The playbooks that are asked for: their locations in order, made absolute. -/
def playbooks (r : Request) : List Text :=
  match r.locations a s with
  | .error _ => []
  | .ok locations => locations.map (Location.normalize s.cwd)

/-- Trace the playbook at a location as a part of a request. -/
def traceAt (location : Text) (p : Progress) : Trace Analyzer.DirectoryError :=
  (Analysis.tracePlaybook s.library a.options (Location.normalize s.cwd location) p).mapFailure .playbook

/-- Trace a request. -/
def trace (r : Request) (p : Progress) : Trace Analyzer.DirectoryError :=
  match r.locations a s with
  | .error e => { failure := some (.candidates e), after := p }
  | .ok locations => Trace.each (traceAt a s) locations p

end Request

namespace Analysis

/-- Forget a failure. -/
def Trace.recovered {ε : Type} (t : Trace ε) : Trace Empty := { after := t.after, visits := t.visits }

/-- Steps that succeed in turn have no failure to forget. -/
theorem Trace.each_recovered {ε β : Type} {step : β → Progress → Trace ε} {items : List β} {p : Progress}
    (h : (each step items p).failure = none) :
    each (fun b q => (step b q).recovered) items p = (each step items p).recovered := by
  induction items generalizing p with
  | nil => rfl
  | cons b rest ih =>
    obtain ⟨hb, hrest⟩ := andThen_failure_eq_none.mp h
    have hafter : (step b p).recovered.after = (step b p).after := rfl
    rw [each, each, andThen_done hb, andThen_done rfl, hafter, ih hrest]
    rfl

/-- A trace that is followed by nothing is the trace itself. -/
theorem Trace.andThen_nothing {ε : Type} (t : Trace ε) : t.andThen (fun q => { after := q }) = t := by
  rcases t with ⟨_ | e, after, visits⟩ <;> simp [andThen]

/-- Records in the log leave no trace. -/
theorem Mirrors.notes_then {ε α β : Type} {records : List β} {level : β → Log.Level} {message : β → Text}
    {attrs : β → List (Text × Log.Value)} {next : Unit → Step ε α} {s : State} {t : Trace ε} {a : α}
    (h : ∀ s', s'.progress = s.progress → Mirrors (next ()) s' t a) :
    Mirrors ((records.forM fun b => note (level b) (message b) (attrs b)) >>= next) s t a := by
  induction records generalizing s with
  | nil => exact h s rfl
  | cons b rest ih =>
    have hstep : Mirrors (note (level b) (message b) (attrs b) >>= fun _ =>
        (rest.forM fun b => note (level b) (message b) (attrs b)) >>= next) s t a := by
      apply Mirrors.note_then
      intro s₁ h₁
      exact ih fun s₂ h₂ => h s₂ (h₂.trans h₁)
    rwa [← bind_assoc] at hstep

end Analysis

/-- The trace of one playbook is that of the playbook. -/
theorem Request.trace_playbook (a : Analyzer) (s : Site) (location : Text) (p : Progress) :
    Request.trace a s (.playbook location) p = Request.traceAt a s location p :=
  Trace.andThen_nothing _

namespace Analyzer

variable (a : Analyzer) (s : Site)

/-- Candidates that are found leave no trace. -/
theorem mirrors_candidates {root : Text} {found : List Candidates.Found} (st : Analysis.State)
    (h : Candidates.find s a.options.rolesDir a.matcher a.excludes (Location.normalize s.cwd root) = .ok found) :
    Mirrors (a.candidates s root) st { after := st.progress } (Candidates.sorted found) := by
  simp only [candidates, h]
  apply Mirrors.notes_then
  intro s' hs'
  rw [← hs']
  exact Mirrors.pure _ _

/-- Every playbook of a request mirrors its trace. -/
theorem mirrors_traceAt (location : Text) (st : Analysis.State) :
    Mirrors (Analysis.wrapping DirectoryError.playbook (a.playbook s location)) st
      (Request.traceAt a s location st.progress) () :=
  (Analysis.mirrors_followPlaybook s.library a.options _ st).wrapping _

/-- A directory mirrors the traces of its playbooks in turn. -/
theorem mirrors_directory (root : Text) (st : Analysis.State) :
    Mirrors (a.directory s root) st (Request.trace a s (.directory root) st.progress) () := by
  unfold directory Request.trace Request.locations
  cases hfind : Candidates.find s a.options.rolesDir a.matcher a.excludes (Location.normalize s.cwd root) with
  | error e =>
    simp only [Except.map, candidates, hfind]
    exact ⟨rfl, rfl⟩
  | ok found =>
    simp only [Except.map, hfind]
    have hcandidates := (mirrors_candidates a s st hfind).wrapping DirectoryError.candidates
    rw [← Trace.andThen_still st.progress (Trace.each (Request.traceAt a s) (Candidates.sorted found))]
    apply Mirrors.bind hcandidates
    intro st₁ h₁
    apply Mirrors.note_then
    intro st₂ h₂
    rw [show st.progress = st₂.progress from (h₂.trans h₁).symm]
    exact Mirrors.forM (K := fun _ => True) (fun _ _ _ => trivial)
      (fun location st' _ => mirrors_traceAt a s location st') _ trivial

/-- A request mirrors its trace, from any state. -/
theorem mirrors_perform (r : Request) (st : Analysis.State) :
    Mirrors (r.perform a s) st (r.trace a s st.progress) () := by
  cases r with
  | playbook location =>
    rw [Request.trace_playbook]
    exact mirrors_traceAt a s location st
  | directory root => exact mirrors_directory a s root st

/-- The state after some requests, whether they succeed or not. -/
def afterAll (requests : List Request) (st : Analysis.State) : Analysis.State :=
  requests.foldl (fun st r => ((r.perform a s).run st).2) st

/-- What some requests find and visit, whether they succeed or not. -/
def history (requests : List Request) (p : Progress) : Trace Empty :=
  Trace.each (fun r q => (r.trace a s q).recovered) requests p

/-- The state after some requests is what their history leaves. -/
theorem progress_afterAll (requests : List Request) (st : Analysis.State) :
    (a.afterAll s requests st).progress = (a.history s requests st.progress).after := by
  induction requests generalizing st with
  | nil => rfl
  | cons r rest ih =>
    have hprogress := (mirrors_perform a s r st).progress
    change (a.afterAll s rest ((r.perform a s).run st).2).progress =
      (a.history s rest (r.trace a s st.progress).after).after
    rw [ih, hprogress]

/-- One more playbook adds its visits and what it finds to a history. -/
theorem history_playbook (requests : List Request) (location : Text) (p : Progress) :
    let last := Analysis.tracePlaybook s.library a.options (Location.normalize s.cwd location)
      (a.history s requests p).after
    (a.history s (requests ++ [.playbook location]) p).after = last.after ∧
      (a.history s (requests ++ [.playbook location]) p).visits =
        (a.history s requests p).visits ++ last.visits := by
  intro last
  have hlast : ∀ q, a.history s [.playbook location] q = (Request.traceAt a s location q).recovered := by
    intro q
    rw [← Request.trace_playbook]
    exact Trace.andThen_nothing (Request.trace a s (.playbook location) q).recovered
  have hnone : (a.history s requests p).failure = none := by
    cases h : (a.history s requests p).failure with
    | none => rfl
    | some e => exact e.elim
  have hsplit : a.history s (requests ++ [.playbook location]) p =
      (a.history s requests p).andThen (a.history s [.playbook location]) := Trace.each_append _ _ _ _
  rw [hsplit, Trace.andThen_done hnone, hlast]
  exact ⟨rfl, rfl⟩

/-- What every playbook keeps is kept by every history. -/
theorem history_preserves {P : Progress → Prop} {V : List Visit} {requests : List Request} {p : Progress}
    (hV : (a.history s requests p).visits ⊆ V) (hp : P p)
    (hplaybook : ∀ location q, P q →
      (Analysis.tracePlaybook s.library a.options location q).visits ⊆ V →
        P (Analysis.tracePlaybook s.library a.options location q).after) :
    P (a.history s requests p).after := by
  refine Trace.each_preserves hV hp ?_
  intro r _ q hq hVr
  change (r.trace a s q).visits ⊆ V at hVr
  change P (r.trace a s q).after
  unfold Request.trace at hVr ⊢
  split
  · exact hq
  · rename_i locations hlocations
    simp only [hlocations] at hVr
    refine Trace.each_preserves hVr hq ?_
    intro location _ q' hq' hV'
    exact hplaybook _ q' hq' hV'

/-- A history that starts without a memo leaves one that is settled. -/
theorem settled_history {p : Progress} (hp : p.expanded = []) (requests : List Request) :
    Settled s.library a.options (a.history s requests p).visits (a.history s requests p).after.expanded := by
  refine history_preserves a s (P := fun q => Settled s.library a.options _ q.expanded)
    (List.Subset.refl _) ?_ fun _ _ hq hVq => Analysis.settled_tracePlaybook hVq hq
  rw [hp]
  exact .nil

end Analyzer

end RoleGraph
