import PipelineScript.Expander
import PipelineScript.Proofs.Dialogue.Possibility

/-!
# The expander and selections

What the expander does with a session in hand is the selection from all that the expansion offers.
A selection goes on behind a dialogue in the session in which it ended, so each list of steps and
each template hands its session on in the same way.
-/

namespace PipelineScript

namespace Selection

open Dialogue

variable {α β : Type}

/-- What follows a dialogue is selected in the session in which the dialogue ended. -/
theorem select_bind_andThen (interactive : Bool) (s : Session) (d : Dialogue β) (f : Dialogue α) :
    select interactive s (d.bind fun _ => f) =
      (select interactive s d).bind fun flow => flow.andThen fun s' => select interactive s' f := by
  induction d generalizing s with
  | done b => rfl
  | fail e => rfl
  | ask q next ih => exact congrArg (Dialogue.ask q) (funext fun r => ih r s)
  | act a next ih =>
    cases a with
    | load path depth => exact congrArg (Dialogue.act _) (funext fun u => ih u s)
    | job name => exact congrArg (Dialogue.act _) (funext fun u => ih u s)
    | notice message colour =>
      rw [Dialogue.bind, select_notice, select_notice]
      split_ifs
      · exact ih () s
      · exact congrArg (Dialogue.act _) (funext fun u => ih u s)
    | emit c =>
      rw [Dialogue.bind, select_emit, select_emit]
      split_ifs
      · exact ih () s
      · refine congrArg (Dialogue.ask (question c)) (funext fun r => ?_)
        rcases r with e | r
        · rfl
        rw [answered, answered]
        cases choiceOf r with
        | yes => exact congrArg (Dialogue.act _) (funext fun u => ih u _)
        | no => exact ih () _
        | acceptRemaining =>
          exact congrArg (Dialogue.act _) (funext fun _ =>
            congrArg (Dialogue.act _) (funext fun u => ih u _))
        | skipRemaining => exact congrArg (Dialogue.act _) (funext fun u => ih u _)
        | quit => rfl
      · exact congrArg (Dialogue.act _) (funext fun u => ih u s)

end Selection

/-! ### Parts of an expansion -/

namespace Expansion

open Dialogue

variable {s : Settings} {library : Library} {P : Act → Prop}

/-- Nothing is done but asking while parameters are given their values. -/
theorem everyAct_bindParameters (template : String) (names : List String) (b : Bindings) :
    EveryAct P (bindParameters template names b) := by
  induction names generalizing b with
  | nil => exact .done b
  | cons name names ih =>
    rw [bindParameters]
    split_ifs
    · exact ih b
    · refine .bind (.ask _ fun r => ?_) fun value => ih (b.insert (name, value))
      split
      · exact .done _
      · exact .fail _
      · exact .fail _
      · exact .fail _

theorem templateFrom_succ (levels depth : Nat) (path : Path) (b : Bindings) :
    templateFrom s library (levels + 1) depth path b =
      .act (.load path depth) fun _ => (Dialogue.ofExcept (library path)).bind fun n =>
        (bindParameters (templateName path) (Template.ofNode n).parameters b).bind fun b' =>
          stepsWith s (templateFrom s library levels (depth + 1)) ⟨path.directory, b', depth⟩
            (Template.ofNode n).steps := rfl

/-- The section of a job stands in front of those of the jobs behind it. -/
theorem jobs_cons (base : Path) (j : Job) (js : List Job) :
    jobs s library base (j :: js) =
      (if j.declaresSteps then
        (Dialogue.perform (.job j.name)).bind fun _ => steps s library (.root base) j.steps
      else .done ()).bind fun _ => jobs s library base js := by
  rw [jobs]
  split_ifs
  · rfl
  · rfl

end Expansion

/-! ### The session in hand -/

namespace Expander

open Dialogue Selection

variable (s : Settings) (library : Library)

theorem bind_andThen_congr {d d' : Dialogue Flow} {f g : Session → Dialogue Flow} (hd : d = d')
    (h : ∀ session, f session = g session) :
    (d.bind fun flow => flow.andThen f) = d'.bind fun flow => flow.andThen g := by
  rw [hd, funext h]

/-- A part of a step that is missing leaves the session as it is. -/
theorem elim_eq_select {α : Type} {process : α → Session → Dialogue Flow}
    {offer : α → Dialogue Unit}
    (h : ∀ a session, process a session = select s.interactive session (offer a)) (part : Option α)
    (session : Session) :
    (part.elim (.done (.continued session)) fun a => process a session) =
      select s.interactive session (part.elim (.done ()) offer) := by
  cases part with
  | none => rfl
  | some a => exact h a session

/-- A command is processed as the selection from what is offered of it. -/
theorem processCommand_eq (b : Bindings) (c : StepCommand) (session : Session) :
    processCommand s b c session = select s.interactive session (Expansion.command s b c) := by
  rw [processCommand, Expansion.command]
  cases c.task.filter (!s.supports ·) with
  | some task => cases session <;> rfl
  | none =>
    by_cases hexcluded : s.exclusions.excludesCommand c.label
    · simp only [hexcluded, if_true]
      rfl
    simp only [hexcluded, if_false, Bool.false_eq_true]
    cases hinteractive : s.interactive with
    | false => cases session <;> rfl
    | true =>
      cases session with
      | acceptAll => rfl
      | skipAll => rfl
      | undecided =>
        refine congrArg (Dialogue.ask _) (funext fun r => ?_)
        rcases r with e | choice | text
        · rfl
        · cases choice <;> rfl
        · rfl

/-- The template of a step is processed as the selection from what is offered of it. -/
theorem processReference_eq {nested : Path → Bindings → Dialogue Unit}
    {nested' : Path → Bindings → Session → Dialogue Flow}
    (h : ∀ path b session, nested' path b session = select s.interactive session (nested path b))
    (scope : Scope) (r : TemplateReference) (session : Session) :
    processReference s nested' scope r session =
      select s.interactive session (Expansion.reference s nested scope r) := by
  rw [processReference, Expansion.reference]
  split_ifs
  · rfl
  · exact h _ _ session

theorem processStepsWith_eq {nested : Path → Bindings → Dialogue Unit}
    {nested' : Path → Bindings → Session → Dialogue Flow}
    (h : ∀ path b session, nested' path b session = select s.interactive session (nested path b))
    (scope : Scope) (steps : List Step) (session : Session) :
    processStepsWith s nested' scope steps session =
      select s.interactive session (Expansion.stepsWith s nested scope steps) := by
  induction steps generalizing session with
  | nil => rfl
  | cons step steps ih =>
    have htemplate := elim_eq_select s (processReference_eq s h scope) step.template
    have hcommand := elim_eq_select s (processCommand_eq s scope.bindings) step.command
    have hsteps : Expansion.stepsWith s nested scope (step :: steps) =
        (step.template.elim (.done ()) (Expansion.reference s nested scope)).bind fun _ =>
          (step.command.elim (.done ()) (Expansion.command s scope.bindings)).bind fun _ =>
            Expansion.stepsWith s nested scope steps := rfl
    rw [hsteps, select_bind_andThen, processStepsWith]
    refine bind_andThen_congr (htemplate session) fun session => ?_
    rw [select_bind_andThen]
    exact bind_andThen_congr (hcommand session) ih

/-- A template is resolved as the selection from what is offered of it. -/
theorem resolveTemplateFrom_eq (levels depth : Nat) (path : Path) (b : Bindings)
    (session : Session) :
    resolveTemplateFrom s library levels depth path b session =
      select s.interactive session (Expansion.templateFrom s library levels depth path b) := by
  induction levels generalizing depth path b session with
  | zero => rfl
  | succ levels ih =>
    rw [Expansion.templateFrom_succ]
    refine congrArg (Dialogue.act _) (funext fun _ => ?_)
    cases library path with
    | error e => rfl
    | ok n =>
      refine Eq.trans ?_ (select_bind (Expansion.everyAct_bindParameters _ _ b) _ _ _).symm
      exact congrArg (Dialogue.bind _) (funext fun b' =>
        processStepsWith_eq s (ih (depth + 1)) _ _ session)

/-- Within the bound a template is loaded, its parameters are given their values, and its steps are
processed in the same session. -/
theorem resolveTemplate_of_le {depth : Nat} (h : depth ≤ s.maxTemplateDepth) (path : Path)
    (b : Bindings) (session : Session) :
    resolveTemplate s library path b depth session =
      .act (.load path depth) fun _ => (Dialogue.ofExcept (library path)).bind fun n =>
        (Expansion.bindParameters (Expansion.templateName path) (Template.ofNode n).parameters
          b).bind fun b' =>
            processSteps s library (Template.ofNode n).steps ⟨path.directory, b', depth⟩
              session := by
  have hlevels : s.maxTemplateDepth + 1 - depth = s.maxTemplateDepth - depth + 1 := by omega
  have hnested : resolveTemplateFrom s library (s.maxTemplateDepth - depth) (depth + 1) =
      fun path b => resolveTemplate s library path b (depth + 1) := by
    funext path' b' session'
    rw [resolveTemplate, Nat.add_sub_add_right]
  rw [resolveTemplate, hlevels, resolveTemplateFrom, hnested]
  rfl

theorem processSteps_eq (steps : List Step) (scope : Scope) (session : Session) :
    processSteps s library steps scope session =
      select s.interactive session (Expansion.steps s library scope steps) :=
  processStepsWith_eq s (fun path b => resolveTemplateFrom_eq s library _ _ path b) scope steps
    session

theorem processJobs_eq (base : Path) (jobs : List Job) (session : Session) :
    processJobs s library base jobs session =
      select s.interactive session (Expansion.jobs s library base jobs) := by
  induction jobs generalizing session with
  | nil => rfl
  | cons job jobs ih =>
    rw [processJobs, Expansion.jobs_cons]
    by_cases hsteps : job.declaresSteps
    · rw [if_pos hsteps, if_pos hsteps]
      refine congrArg (Dialogue.act _) (funext fun _ => ?_)
      refine Eq.trans ?_ (select_bind_andThen _ _ _ _).symm
      exact bind_andThen_congr (processSteps_eq s library job.steps (.root base) session) ih
    · rw [if_neg hsteps, if_neg hsteps]
      exact ih session

end Expander

/-- The expansion of a pipeline is the selection from what is offered of it, while nothing has been
decided. -/
theorem expandPipeline_eq_select (s : Settings) (library : Library) (p : Pipeline) (base : Path) :
    expandPipeline s library p base =
      Selection.select s.interactive .undecided (Expansion.pipeline s library p base) :=
  Expander.processJobs_eq s library base p.jobs .undecided

end PipelineScript
