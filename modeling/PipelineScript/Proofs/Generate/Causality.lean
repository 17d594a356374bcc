import PipelineScript.Proofs.Dialogue.Closing
import PipelineScript.Proofs.Expander
import PipelineScript.Proofs.Expansion.Flattening
import PipelineScript.Proofs.Generate.Conversation

/-!
# Answers are read as they are needed

A request is answered by means of the answers that it asks for, one after the other. Answers that
nobody asks for are left as they are, and nothing depends on them: they make a difference only to a
request that fails because there are no more answers, and to that only behind the question that
stays open.
-/

namespace PipelineScript

open Dialogue

/-- The question that a failure leaves open, by the reason why it got no answer. -/
def Failure.unanswered? : Failure → Option PromptError
  | noReplacement e => some e
  | noConsent _ e => some e
  | generation _ (.unanswered e) => some e
  | _ => none

/-- The result is that the input ended before a question was answered. -/
def FailsClosed {α : Type} (r : Except Failure α) : Prop :=
  ∃ f, r = .error f ∧ f.unanswered? = some .closed

theorem not_failsClosed_ok {α : Type} (a : α) : ¬FailsClosed (.ok a : Except Failure α) :=
  fun ⟨_, h, _⟩ => nomatch h

theorem failsClosed_error_iff {α : Type} {f : Failure} :
    FailsClosed (.error f : Except Failure α) ↔ f.unanswered? = some .closed :=
  ⟨fun ⟨_, h, hf⟩ => Except.error.inj h ▸ hf, fun h => ⟨f, rfl, h⟩⟩

/-- No definition fails because of a question. -/
def Library.AsksNobody (library : Library) : Prop :=
  ∀ path, library path ≠ .error (.unanswered .closed)

theorem FileSystem.library_asksNobody (fs : FileSystem) : fs.library.AsksNobody := by
  intro path h
  rw [library] at h
  split at h
  · cases h
  · split at h <;> cases h

/-! ### The expansion -/

namespace Expansion

variable {s : Settings} {library : Library}

theorem closes_requestParameter (parameter template : String) :
    Closes (fun _ => False) (requestParameter parameter template) := by
  refine .ask _ (r := .error (.unanswered .closed)) rfl rfl fun answer hne => ?_
  match answer, hne with
  | .ok (.text value), _ => exact .done id
  | .ok (.choice c), _ => exact .fail nofun
  | .error .unavailable, _ => exact .fail nofun
  | .error .notText, _ => exact .fail nofun
  | .error .closed, hne => exact absurd rfl hne

theorem closes_bindParameters (template : String) (names : List String) (b : Bindings) :
    Closes (fun _ => False) (bindParameters template names b) := by
  induction names generalizing b with
  | nil => exact .done id
  | cons name names ih =>
    rw [bindParameters]
    split_ifs
    · exact ih b
    · exact (closes_requestParameter name template).andThen fun value => ih _

theorem closes_command (b : Bindings) (c : StepCommand) :
    Closes (fun _ => False) (command s b c) := by
  rw [command]
  split
  · exact .perform _
  · split_ifs
    · exact .done id
    · exact .perform _

theorem closes_stepsWith {nested : Path → Bindings → Dialogue Unit}
    (hnested : ∀ path b, Closes (fun _ => False) (nested path b)) (scope : Scope)
    (l : List Step) : Closes (fun _ => False) (stepsWith s nested scope l) := by
  induction l with
  | nil => exact .done id
  | cons step rest ih =>
    refine .andThen ?_ fun _ => .andThen ?_ fun _ => ih
    · cases step.template with
      | none => exact .done id
      | some r =>
        rw [Option.elim_some, reference]
        split_ifs
        · exact .done id
        · exact hnested _ _
    · cases step.command with
      | none => exact .done id
      | some c => exact closes_command scope.bindings c

theorem closes_templateFrom (hlibrary : library.AsksNobody) (levels depth : Nat) (path : Path)
    (b : Bindings) : Closes (fun _ => False) (templateFrom s library levels depth path b) := by
  induction levels generalizing depth path b with
  | zero => exact .fail nofun
  | succ levels ih =>
    have hload : Closes (fun _ => False) (.ofExcept (library path)) := by
      refine .ofExcept fun hclosed => ?_
      cases hn : library path with
      | ok n => simp [hn, Dialogue.IsClosed] at hclosed
      | error e =>
        rw [hn] at hclosed
        exact hlibrary path (hn.trans (congrArg _ hclosed))
    refine .andThen (.perform _) fun _ => .andThen hload fun n => ?_
    refine .andThen (closes_bindParameters _ _ b) fun b' => ?_
    exact closes_stepsWith (fun path' b'' => ih (depth + 1) path' b'') _ _

theorem closes_jobs (hlibrary : library.AsksNobody) (base : Path) (js : List Job) :
    Closes (fun _ => False) (jobs s library base js) := by
  induction js with
  | nil => exact .done id
  | cons j js ih =>
    rw [jobs]
    split_ifs
    · refine .andThen (.perform _) fun _ => .andThen ?_ fun _ => ih
      exact closes_stepsWith (fun _ _ => closes_templateFrom hlibrary _ _ _ _) _ _
    · exact ih

end Expansion

theorem closes_expandPipeline (s : Settings) {library : Library} (hlibrary : library.AsksNobody)
    (p : Pipeline) (base : Path) :
    Closes (fun _ => False) (expandPipeline s library p base) := by
  rw [expandPipeline_eq_select]
  exact Selection.closes_select (Expansion.closes_jobs hlibrary base p.jobs) _ _

/-! ### The checks -/

namespace Validation

variable {fs : FileSystem}

theorem closes_replacing (q : Question) {again : Path → Dialogue Verdict}
    (h : ∀ p, Closes FailsClosed (again p)) : Closes FailsClosed (replacing q again) := by
  refine .ask q (r := .ok (.error (.noReplacement .closed))) rfl (failsClosed_error_iff.2 rfl)
    fun answer hne => ?_
  match answer, hne with
  | .ok (.text next), _ => exact h _
  | .ok (.choice c), _ => exact .act _ (.done (not_failsClosed_ok _))
  | .error e, hne =>
    exact .done fun hclosed => hne (congrArg _ (Option.some.inj (failsClosed_error_iff.1 hclosed)))

theorem closes_searchRound (need : Requirement) {again : Path → Dialogue Verdict}
    (h : ∀ p, Closes FailsClosed (again p)) (candidate : Path) :
    Closes FailsClosed (searchRound need again candidate) := by
  rw [searchRound]
  split_ifs
  · exact .done (not_failsClosed_ok _)
  · exact closes_replacing _ h

theorem closes_outputRound (force : Bool) {again : Path → Dialogue Verdict}
    (h : ∀ p, Closes FailsClosed (again p)) (candidate : Path) :
    Closes FailsClosed (outputRound fs force again candidate) := by
  rw [outputRound]
  split_ifs
  · exact .done (not_failsClosed_ok _)
  · refine .ask _ (r := .ok (.error (.noConsent candidate .closed))) rfl
      (failsClosed_error_iff.2 rfl) fun answer hne => ?_
    rcases answer with e | (_ | _ | _ | _ | _) | text
    · exact .done fun hclosed =>
        hne (congrArg _ (Option.some.inj (failsClosed_error_iff.1 hclosed)))
    case ok.choice.yes => exact .done (not_failsClosed_ok _)
    case ok.choice.no => exact closes_replacing _ h
    all_goals exact .act _ (.done (not_failsClosed_ok _))

/-- A check closes if each of its rounds does. -/
theorem closes_checking {round : (Path → Dialogue Verdict) → Path → Dialogue Verdict}
    (hround : ∀ again : Path → Dialogue Verdict, (∀ p, Closes FailsClosed (again p)) →
      ∀ candidate, Closes FailsClosed (round again candidate)) (n : Nat) (p : Path) :
    Closes FailsClosed (checking fs round n p) := by
  induction n generalizing p with
  | zero => exact .done (not_failsClosed_ok _)
  | succ n ih =>
    rw [checking, settle, absolute]
    cases fs.absolute? p with
    | none =>
      refine .done fun h => ?_
      cases failsClosed_error_iff.1 h
    | some candidate => exact hround _ ih candidate

end Validation

/-! ### The request -/

theorem Pipeline.load_ne_closed {library : Library} (hlibrary : library.AsksNobody) (path : Path) :
    Pipeline.load library path ≠ .error (.unanswered .closed) := by
  intro h
  rw [load] at h
  cases hn : library path with
  | error e =>
    rw [hn] at h
    exact hlibrary path (hn.trans (congrArg _ (Except.error.inj h)))
  | ok n =>
    rw [hn] at h
    simp only [Bind.bind, Except.bind] at h
    split at h <;> cases h

theorem closes_building (s : Settings) {library : Library} (hlibrary : library.AsksNobody)
    (path : Path) :
    Closes (fun o => o.result = .error (.unanswered .closed)) (building s library path) := by
  rw [building]
  cases hload : Pipeline.load library path with
  | error e => exact .done fun h =>
      Pipeline.load_ne_closed hlibrary path (hload.trans (congrArg _ (Except.error.inj h)))
  | ok p =>
    refine (closes_expandPipeline s hlibrary p path.directory).listen.bind (fun r hr => .done ?_)
      fun r hr => ⟨_, rfl, ?_⟩
    · obtain ⟨e | flow, events, _⟩ := r
      · exact fun h => hr (Except.error.inj h)
      · intro h
        cases h
    · obtain ⟨e | flow, events, _⟩ := r
      · exact congrArg Except.error hr
      · exact hr.elim

theorem closes_proceeding {fs : FileSystem} {d : Dialogue Validation.Verdict}
    (hd : Closes FailsClosed d) {next : Path → Dialogue (Generated Unit)}
    (hnext : ∀ p, Closes (fun g => FailsClosed g.result) (next p)) :
    Closes (fun g => FailsClosed g.result) (d.bind (proceeding fs next)) := by
  refine hd.bind (fun v hv => ?_) fun v hv => ?_
  · rcases v with f | _ | p
    · exact .done fun h => hv (failsClosed_error_iff.2 (failsClosed_error_iff.1 h))
    · exact .done (not_failsClosed_ok _)
    · exact hnext p
  · obtain ⟨f, rfl, hf⟩ := hv
    exact ⟨_, rfl, failsClosed_error_iff.2 hf⟩

/-- A failure to write a script, or to build it, leaves no question open but that of the build. -/
theorem Outcome.written_result_eq_closed_iff [Quoting] (o : Outcome Script Unit)
    (fs : FileSystem) (output : Path) :
    (o.written fs output).1.result = .error (.unanswered .closed) ↔
      o.result = .error (.unanswered .closed) := by
  obtain ⟨e | _ | script, events, _⟩ := o
  · simp [written]
  · simp [written]
  · have hwritten : (script.writeTo fs output).1 ≠ .error (.unanswered .closed) := by
      rw [Script.writeTo]
      cases fs.write output script.finish with
      | error fault => simp
      | ok fs' =>
        simp only
        cases fs'.makeExecutable output <;> simp
    simp only [written]
    cases hresult : (script.writeTo fs output).1 with
    | error e => simpa [hresult, Except.map] using hwritten
    | ok u => simp [Except.map]

theorem failsClosed_generation_iff {α : Type} {r : Except GenerationError α} (input : Path) :
    FailsClosed (r.mapError (.generation input)) ↔ r = .error (.unanswered .closed) := by
  cases r with
  | ok a => exact ⟨fun h => absurd h (not_failsClosed_ok a), fun h => nomatch h⟩
  | error e =>
    rw [Except.mapError, failsClosed_error_iff]
    cases e <;> simp [Failure.unanswered?]

theorem closes_conversation [Quoting] (n : Nat) (r : Request) (c : Config) (fs : FileSystem) :
    Closes (fun g => FailsClosed g.result) (conversation n r c fs) := by
  have hrounds (need : Validation.Requirement) (p : Path) :
      Closes FailsClosed (Validation.checking fs (Validation.searchRound need) n p) :=
    Validation.closes_checking (fun _ h => Validation.closes_searchRound need h) n p
  refine closes_proceeding (hrounds _ _) fun input => ?_
  refine closes_proceeding (hrounds _ _) fun directory => ?_
  refine closes_proceeding
    (Validation.closes_checking (fun _ h => Validation.closes_outputRound r.force h) n _)
    fun output => ?_
  have hclosed (built : Outcome Script Unit) :
      FailsClosed ((built.written fs output).1.result.mapError (.generation input)) ↔
        built.result = .error (.unanswered .closed) :=
    (failsClosed_generation_iff input).trans (built.written_result_eq_closed_iff fs output)
  refine (closes_building _ fs.library_asksNobody input).bind (fun built hbuilt => ?_)
    fun built hbuilt => ?_
  · exact .done fun h => hbuilt ((hclosed built).1 h)
  · exact ⟨_, rfl, (hclosed built).2 hbuilt⟩

/-- Answers given in advance are read as they are needed. A request that does not fail because there
are no more answers comes to the same with more of them: to the same result, files and events, by
the same questions and notices, and all that was added is left. If it does fail for that reason it
has used up its answers, and what it asked and showed comes first with more answers, too. -/
theorem generate_followedBy [Quoting] (r : Request) (c : Config) (fs : FileSystem)
    (rs extra : List Response) :
    let g := generate r c fs (Scripted.ofResponses rs)
    let g' := generate r c fs (Scripted.ofResponses (rs ++ extra))
    (¬FailsClosed g.result →
      g'.result = g.result ∧ g'.fileSystem = g.fileSystem ∧ g'.events = g.events ∧
        g'.prompter.asked = g.prompter.asked ∧ g'.prompter.notices = g.prompter.notices ∧
        g'.prompter.responses = g.prompter.responses ++ extra) ∧
      (FailsClosed g.result →
        g.prompter.asked <+: g'.prompter.asked ∧ g.prompter.notices <+: g'.prompter.notices ∧
          g.prompter.responses = []) := by
  intro g g'
  -- One dialogue stands for the request with both lists.
  let n := (rs ++ extra).length + 1
  have hd : (conversation n r c fs).Gives (Scripted.ofResponses rs) (g.mapPrompter fun _ => ())
      g.prompter :=
    gives_conversation r c fs (Nat.lt_succ_of_le (by simp [Prompter.supply, Scripted.ofResponses]))
  have hd' : (conversation n r c fs).Gives (Scripted.ofResponses (rs ++ extra))
      (g'.mapPrompter fun _ => ()) g'.prompter :=
    gives_conversation r c fs (Nat.lt_succ_self _)
  obtain ⟨hopen, hclosed⟩ :=
    (closes_conversation n r c fs).run_followedBy (Scripted.ofResponses rs) extra
  rw [hd.1, hd.2] at hclosed
  rw [hd.1] at hopen
  refine ⟨fun h => ?_, fun h => ?_⟩
  · have hrun := hopen h
    have hsame : g'.mapPrompter (fun _ => ()) = g.mapPrompter fun _ => () := by
      have houtcome := congrArg Run.outcome hrun
      exact Except.ok.inj (hd'.1.symm.trans (houtcome.trans hd.1))
    have hprompter : g'.prompter = g.prompter.followedBy extra := by
      rw [← hd'.2, ← hd.2]
      exact congrArg Run.prompter hrun
    injection hsame with hresult hevents _ hfiles
    rw [hprompter]
    exact ⟨hresult, hfiles, hevents, rfl, rfl, rfl⟩
  · obtain ⟨hprecedes, hnone⟩ := hclosed h
    have hprompter : ((conversation n r c fs).run
        ((Scripted.ofResponses rs).followedBy extra)).prompter = g'.prompter := hd'.2
    rw [hprompter] at hprecedes
    exact ⟨hprecedes.asked, hprecedes.notices, hnone⟩

end PipelineScript
