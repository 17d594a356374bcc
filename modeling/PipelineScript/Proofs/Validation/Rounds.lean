import Mathlib.Tactic.Common
import PipelineScript.Validation
import PipelineScript.Proofs.Dialogue.Listen

/-!
# Checks as dialogues

A check asks for as long as the prompter answers, so it is no dialogue, but with any one prompter it
goes no more rounds than there are answers. Within that many rounds it is the run of one dialogue,
whatever the prompter is. A check with a recorder is therefore the check with the prompter behind
it.
-/

namespace PipelineScript.Validation

variable {σ : Type} [Prompter σ] {fs : FileSystem}

/-! ### One round of a search -/

theorem search_of_holds {need : Requirement} {candidate : Path} (h : need.holds candidate) (s : σ) :
    search fs need candidate s = (.ok (some candidate), s) := by
  rw [search, if_pos h]

theorem search_of_not_holds {need : Requirement} {candidate : Path} (h : ¬need.holds candidate)
    (s : σ) :
    search fs need candidate s =
      match Prompting.ask (pathQuestion (need.complaint candidate) need.hint) s with
      | (.error e, s') => (.error (.noReplacement e), s')
      | (.ok (.choice _), s') => quit s'
      | (.ok (.text next), s') => check fs need ⟨next⟩ s' := by
  rw [search, if_neg h]
  rcases Prompting.ask (pathQuestion (need.complaint candidate) need.hint) s with ⟨_ | _ | _, s'⟩
  · rfl
  · rfl
  · rfl

theorem searchOutput_of_not_pathExists {candidate : Path} (h : fs.pathExists candidate = false)
    (s : σ) : searchOutput fs candidate s = (.ok (some candidate), s) := by
  rw [searchOutput, h]
  rfl

theorem searchOutput_of_pathExists {candidate : Path} (h : fs.pathExists candidate = true)
    (s : σ) :
    searchOutput fs candidate s =
      match Prompting.ask (overwriteQuestion candidate) s with
      | (.error e, s') => (.error (.noConsent candidate e), s')
      | (.ok (.choice .yes), s') => (.ok (some candidate), s')
      | (.ok (.choice .no), s') =>
        match Prompting.ask replacementQuestion s' with
        | (.error e, s') => (.error (.noReplacement e), s')
        | (.ok (.choice _), s') => quit s'
        | (.ok (.text next), s') => checkOutput fs false ⟨next⟩ s'
      | (.ok _, s') => quit s' := by
  rw [searchOutput, h]
  rcases Prompting.ask (overwriteQuestion candidate) s with ⟨_ | (_ | _ | _ | _ | _) | _, s'⟩
  · rfl
  · rfl
  · simp only [Bool.not_true, Bool.false_eq_true, if_false]
    rcases Prompting.ask replacementQuestion s' with ⟨_ | _ | _, s''⟩
    · rfl
    · rfl
    · rfl
  · rfl
  · rfl
  · rfl
  · rfl

/-! ### The dialogues -/

/-- What a check ends with, whoever was asked. -/
abbrev Verdict := Except Failure (Option Path)

/-- Shows that the run ends without a script. -/
def quitting : Dialogue Verdict :=
  .act Selection.terminating fun _ => .done (.ok none)

/-- Asks for another path and goes on with it. -/
def replacing (q : Question) (again : Path → Dialogue Verdict) : Dialogue Verdict :=
  .ask q fun
    | .error e => .done (.error (.noReplacement e))
    | .ok (.choice _) => quitting
    | .ok (.text next) => again ⟨next⟩

/-- One round of the search for a path that can be used. -/
def searchRound (need : Requirement) (again : Path → Dialogue Verdict) (candidate : Path) :
    Dialogue Verdict :=
  if need.holds candidate then .done (.ok (some candidate))
  else replacing (pathQuestion (need.complaint candidate) need.hint) again

/-- One round of the search for a path for the script. -/
def outputRound (fs : FileSystem) (force : Bool) (again : Path → Dialogue Verdict)
    (candidate : Path) : Dialogue Verdict :=
  if force || !fs.pathExists candidate then .done (.ok (some candidate))
  else .ask (overwriteQuestion candidate) fun
    | .error e => .done (.error (.noConsent candidate e))
    | .ok (.choice .yes) => .done (.ok (some candidate))
    | .ok (.choice .no) => replacing replacementQuestion again
    | .ok _ => quitting

/-- Goes on with the absolute path. -/
def settle {β : Type} (fs : FileSystem) (p : Path) (failed : Failure → β) (next : Path → β) : β :=
  match absolute fs p with
  | .error f => failed f
  | .ok candidate => next candidate

/-- A check of so many rounds at most; what would come behind them is left open. -/
def checking (fs : FileSystem) (round : (Path → Dialogue Verdict) → Path → Dialogue Verdict) :
    Nat → Path → Dialogue Verdict
  | 0, _ => .done (.ok none)
  | n + 1, p => settle fs p (fun f => .done (.error f)) (round (checking fs round n))

/-- The dialogue comes to this result of a check; if that is a path, there are no more answers left
than before. -/
structure Renders (d : Dialogue Verdict) (s : σ) (r : Result σ) : Prop where
  gives : d.Gives s r.1 r.2
  supply : ∀ p, r.1 = .ok (some p) → Prompter.supply r.2 ≤ Prompter.supply s

namespace Renders

variable {q : Question} {next : Except PromptError Response → Dialogue Verdict} {s s' : σ}

theorem done (v : Verdict) (s : σ) : Renders (.done v) s (v, s) :=
  ⟨.done v s, fun _ _ => Nat.le_refl _⟩

theorem quit (s : σ) : Renders quitting s (quit s) :=
  ⟨.act (.done _ _), fun _ h => by cases h⟩

theorem ask_ok {a : Response} {r : Result σ} (hask : Prompting.ask q s = (.ok a, s'))
    (h : Renders (next (.ok a)) s' r) : Renders (.ask q next) s r :=
  ⟨.ask hask h.gives, fun p hp =>
    Nat.le_trans (h.supply p hp) (Nat.le_of_lt (Prompter.supply_lt hask))⟩

theorem ask_error {e : PromptError} {f : Failure} (hask : Prompting.ask q s = (.error e, s'))
    (h : next (.error e) = .done (.error f)) : Renders (.ask q next) s (.error f, s') :=
  ⟨.ask hask (h ▸ .done _ s'), fun p hp => by cases hp⟩

/-- Another path is asked for: what comes next has fewer answers left. -/
theorem replacing {again : Path → Dialogue Verdict} {check : Path → σ → Result σ}
    (h : ∀ p s', Prompter.supply s' < Prompter.supply s → Renders (again p) s' (check p s')) :
    Renders (replacing q again) s
      (match Prompting.ask q s with
      | (.error e, s') => (.error (.noReplacement e), s')
      | (.ok (.choice _), s') => Validation.quit s'
      | (.ok (.text text), s') => check ⟨text⟩ s') := by
  rcases hask : Prompting.ask q s with ⟨e | c | text, s'⟩
  · exact ask_error hask rfl
  · exact ask_ok hask (quit s')
  · exact ask_ok hask (h ⟨text⟩ s' (Prompter.supply_lt hask))

/-- A check is rendered if each of its rounds is. -/
theorem checking {round : (Path → Dialogue Verdict) → Path → Dialogue Verdict}
    (search : Path → σ → Result σ)
    (hround : ∀ again candidate (s : σ),
      (∀ p s', Prompter.supply s' < Prompter.supply s →
        Renders (again p) s' (settle fs p (fun f => (.error f, s')) (search · s'))) →
      Renders (round again candidate) s (search candidate s))
    {n : Nat} (p : Path) (s : σ) (hn : Prompter.supply s < n) :
    Renders (checking fs round n p) s (settle fs p (fun f => (.error f, s)) (search · s)) := by
  induction n generalizing p s with
  | zero => exact absurd hn (Nat.not_lt_zero _)
  | succ n ih =>
    rw [Validation.checking, settle, settle]
    cases absolute fs p with
    | error f => exact done _ s
    | ok candidate =>
      exact hround _ candidate s fun p' s' hlt => ih p' s' (by omega)

end Renders

/-- Within as many rounds as there are answers, the check against a requirement is a dialogue. -/
theorem renders_check (need : Requirement) (p : Path) {s : σ} {n : Nat}
    (hn : Prompter.supply s < n) :
    Renders (checking fs (searchRound need) n p) s (check fs need p s) := by
  refine Renders.checking (search fs need) (fun again candidate s hagain => ?_) p s hn
  rw [searchRound]
  split_ifs with hholds
  · rw [search_of_holds hholds]
    exact .done _ s
  · rw [search_of_not_holds hholds]
    exact .replacing hagain

/-- Within as many rounds as there are answers, the check of the output is a dialogue. -/
theorem renders_checkOutput (force : Bool) (p : Path) {s : σ} {n : Nat}
    (hn : Prompter.supply s < n) :
    Renders (checking fs (outputRound fs force) n p) s (checkOutput fs force p s) := by
  refine Renders.checking
    (fun candidate s => if force then (.ok (some candidate), s)
      else searchOutput fs candidate s) (fun again candidate s hagain => ?_) p s hn
  rw [outputRound]
  cases force with
  | true => exact .done _ s
  | false =>
    cases hthere : fs.pathExists candidate with
    | false =>
      simp only [Bool.false_eq_true, if_false, searchOutput_of_not_pathExists hthere]
      exact .done _ s
    | true =>
      simp only [Bool.false_eq_true, if_false, searchOutput_of_pathExists hthere]
      rcases hask : Prompting.ask (overwriteQuestion candidate) s with
        ⟨e | (_ | _ | _ | _ | _) | text, s'⟩
      · exact .ask_error hask rfl
      case ok.choice.yes => exact .ask_ok hask (.done _ s')
      case ok.choice.no =>
        exact .ask_ok hask (.replacing fun p' s'' hlt =>
          hagain p' s'' (Nat.lt_trans hlt (Prompter.supply_lt hask)))
      all_goals exact .ask_ok hask (.quit s')

/-! ### Recorders -/

theorem check_inner (need : Requirement) (p : Path) (s : Recorder σ) :
    check fs need p s.inner = Prod.map id Recorder.inner (check fs need p s) := by
  obtain ⟨hverdict, hprompter⟩ :=
    (renders_check need p (s := s.inner) (Nat.lt_succ_self _)).gives.inner
      (renders_check need p (s := s) (Nat.lt_succ_self _)).gives
  exact Prod.ext hverdict hprompter

theorem checkOutput_inner (force : Bool) (p : Path) (s : Recorder σ) :
    checkOutput fs force p s.inner = Prod.map id Recorder.inner (checkOutput fs force p s) := by
  obtain ⟨hverdict, hprompter⟩ :=
    (renders_checkOutput force p (s := s.inner) (Nat.lt_succ_self _)).gives.inner
      (renders_checkOutput force p (s := s) (Nat.lt_succ_self _)).gives
  exact Prod.ext hverdict hprompter

end PipelineScript.Validation
