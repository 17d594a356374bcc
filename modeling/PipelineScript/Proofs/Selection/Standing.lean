import Mathlib.Tactic.Common
import PipelineScript.Proofs.Dialogue.Sift
import PipelineScript.Proofs.Expansion.Nesting
import PipelineScript.Proofs.Script.Decoding
import PipelineScript.Proofs.Selection.Interactive

/-!
# Standing decisions

Once it is decided about all commands that remain, the decision stands through all steps and
templates that follow. If the rest is skipped, nothing is added to the script and nothing is shown,
and values of parameters are all that is asked for. If the rest is accepted, an interactive
expansion is one that is not interactive.
-/

namespace PipelineScript

open Dialogue

namespace Selection

variable {α σ : Type}

/-- A selection that skips the rest lets through the dialogue without its commands and notices. -/
theorem select_skipAll (interactive : Bool) (d : Dialogue α) :
    select interactive .skipAll d =
      (d.sift passesSkipped).bind fun _ => .done (.continued .skipAll) := by
  induction d with
  | done a => rfl
  | fail e => rfl
  | ask q next ih => exact congrArg (Dialogue.ask q) (funext ih)
  | act a next ih =>
    have hskips : Session.skipAll.skipsAll = true := rfl
    cases a with
    | load path depth => exact congrArg (Dialogue.act _) (funext ih)
    | job name => exact congrArg (Dialogue.act _) (funext ih)
    | emit c =>
      rw [select_emit, if_pos hskips]
      exact ih ()
    | notice message colour =>
      rw [select_notice, if_pos hskips]
      exact ih ()

end Selection

namespace Expansion

/-- An act other than the beginning of the section of a job. -/
def IsWithinJob : Act → Prop
  | .job _ => False
  | _ => True

/-- Steps begin no sections, since only a pipeline has jobs. -/
theorem isWithinJob_templateFrom (s : Settings) (library : Library) (levels depth : Nat)
    (path : Path) (b : Bindings) :
    EveryAct IsWithinJob (templateFrom s library levels depth path b) := by
  induction levels generalizing depth path b with
  | zero => exact .fail _
  | succ levels ih =>
    rw [templateFrom_succ]
    refine .act trivial (.bind (.ofExcept _) fun n => ?_)
    refine .bind (everyAct_bindParameters _ _ b) fun b' => ?_
    exact everyAct_stepsWith
      (fun _ _ c _ => everyAct_command (fun _ _ => trivial) (fun _ => trivial) b' c)
      fun step _ r _ b'' => ih (depth + 1) _ b''

theorem isWithinJob_steps (s : Settings) (library : Library) (scope : Scope) (l : List Step) :
    EveryAct IsWithinJob (steps s library scope l) :=
  everyAct_stepsWith
    (fun _ _ c _ => everyAct_command (fun _ _ => trivial) (fun _ => trivial) scope.bindings c)
    fun _ _ _ _ _ => isWithinJob_templateFrom s library _ _ _ _

/-- A dialogue that asks for values asks for them without some of its acts too. -/
theorem AsksForValues.sift {α : Type} {d : Dialogue α} (h : AsksForValues d) (keep : Act → Bool) :
    AsksForValues (d.sift keep) := by
  induction h with
  | done a => exact .done a
  | fail e => exact .fail e
  | act a h ih =>
    rw [Dialogue.sift]
    split_ifs
    · exact .act a ih
    · exact ih
  | ask parameter template hvalue hnone ih =>
    refine .ask parameter template ih fun r hr => ?_
    rw [hnone r hr]
    rfl

end Expansion

open Expansion Expander

/-- If everything is loads and questions, nothing is added to a builder. -/
theorem builder_of_loads {α σ : Type} {r : Run α σ}
    (h : ∀ a, .acted a ∈ r.events → ∃ path depth, a = .load path depth) (b : Script) :
    r.builder b r.events.length = b := by
  have hentries : r.entries = [] := by
    refine List.filterMap_eq_nil_iff.2 fun e he => ?_
    cases e with
    | acted a =>
      obtain ⟨path, depth, rfl⟩ := h a he
      rfl
    | asked q answer => rfl
  rw [r.builder_length, hentries, List.append_nil]

variable {σ : Type} [Prompting σ]

/-- A run of steps that skips the rest loads templates and asks for values, and that is all. -/
theorem run_steps_skipAll (s : Settings) (library : Library) (scope : Scope) (l : List Step)
    (prompter : σ) :
    let r := (processSteps s library l scope .skipAll).run prompter
    (∀ a, .acted a ∈ r.events → ∃ path depth, a = .load path depth) ∧
      (∀ q answer, .asked q answer ∈ r.events →
        ∃ parameter template, q = parameterQuestion parameter template) ∧
      (r.outcome = .ok (.continued .skipAll) ∨ ∃ e, r.outcome = .error e) := by
  intro r
  let loading := (steps s library scope l).sift Selection.passesSkipped
  have hrun : r = ⟨(loading.run prompter).outcome.map fun _ => .continued .skipAll,
      (loading.run prompter).events, (loading.run prompter).prompter⟩ := by
    rw [← run_bind_done loading (fun _ => Flow.continued .skipAll), ← Selection.select_skipAll,
      ← processSteps_eq]
  have hpasses : EveryAct (fun a => Selection.passesSkipped a = true) loading :=
    everyAct_keep_sift _
  have hwithin : EveryAct IsWithinJob loading := (isWithinJob_steps s library scope l).sift _
  have hvalues : AsksForValues loading := (asksForValues_steps s library scope l).sift _
  rw [hrun]
  refine ⟨fun a ha => ?_, fun q answer hq => hvalues.question_eq hq, ?_⟩
  · have hpassed := hpasses.run prompter ha
    have hinside := hwithin.run prompter ha
    cases a with
    | load path depth => exact ⟨path, depth, rfl⟩
    | job name => cases hinside
    | emit c => cases hpassed
    | notice message colour => cases hpassed
  · cases (loading.run prompter).outcome with
    | ok u => exact .inl rfl
    | error e => exact .inr ⟨e, rfl⟩

/-- A run of steps that accepts the rest is the run that is not interactive, but for the session
with which it ends. -/
theorem run_steps_acceptAll (s : Settings) (library : Library) (scope : Scope) (l : List Step)
    (prompter : σ) :
    let accepting := (processSteps { s with interactive := true } library l scope .acceptAll).run
      prompter
    let plain := (processSteps { s with interactive := false } library l scope .undecided).run
      prompter
    accepting.events = plain.events ∧ accepting.prompter = plain.prompter ∧
      ((∃ e, accepting.outcome = .error e ∧ plain.outcome = .error e) ∨
        accepting.outcome = .ok (.continued .acceptAll) ∧
          plain.outcome = .ok (.continued .undecided)) := by
  intro accepting plain
  have hsteps (interactive : Bool) :
      steps { s with interactive } library scope l = steps s library scope l := by
    simp only [steps, template, stepsWith_interactive, templateFrom_interactive]
  have hselect (d : Dialogue Unit) :
      Selection.select true .acceptAll d = d.bind fun _ => .done (.continued .acceptAll) :=
    Selection.select_eq_bind rfl rfl d
  let everything := (steps s library scope l).run prompter
  have haccepting : accepting = ⟨everything.outcome.map fun _ => .continued .acceptAll,
      everything.events, everything.prompter⟩ := by
    rw [← run_bind_done (steps s library scope l) (fun _ => Flow.continued .acceptAll), ← hselect,
      ← hsteps true]
    exact congrArg (Dialogue.run · prompter) (processSteps_eq _ library l scope .acceptAll)
  have hplain : plain = ⟨everything.outcome.map fun _ => .continued .undecided,
      everything.events, everything.prompter⟩ := by
    rw [← run_bind_done (steps s library scope l) (fun _ => Flow.continued .undecided),
      ← Selection.select_undecided, ← hsteps false]
    exact congrArg (Dialogue.run · prompter) (processSteps_eq _ library l scope .undecided)
  rw [haccepting, hplain]
  refine ⟨rfl, rfl, ?_⟩
  cases everything.outcome with
  | error e => exact .inl ⟨e, rfl, rfl⟩
  | ok u => exact .inr ⟨rfl, rfl⟩

/-- A standing decision stands through the expansion of steps. A run that skips the rest adds
nothing to the script and shows no notice, it asks for values of parameters only, and unless it
fails it ends with the same decision; it is never quit. An interactive run that accepts the rest is
the run that is not interactive: the same happens in it, the same is added to the script, and it
fails in the same way; if it does not fail, it ends with the same decision. -/
theorem run_steps_of_decided (s : Settings) (fs : FileSystem) (scope : Scope) (l : List Step)
    (prompter : σ) :
    let skipping := (processSteps s fs.library l scope .skipAll).run prompter
    let accepting := (processSteps { s with interactive := true } fs.library l scope .acceptAll).run
      prompter
    let plain := (processSteps { s with interactive := false } fs.library l scope .undecided).run
      prompter
    ((∀ b, skipping.builder b skipping.events.length = b) ∧
        (∀ message colour, .acted (.notice message colour) ∉ skipping.events) ∧
        (∀ q answer, .asked q answer ∈ skipping.events →
          ∃ parameter template, q = parameterQuestion parameter template) ∧
        (skipping.outcome = .ok (.continued .skipAll) ∨ ∃ e, skipping.outcome = .error e)) ∧
      accepting.events = plain.events ∧ accepting.prompter = plain.prompter ∧
      (∀ b, accepting.builder b accepting.events.length = plain.builder b plain.events.length) ∧
      ((∃ e, accepting.outcome = .error e ∧ plain.outcome = .error e) ∨
        accepting.outcome = .ok (.continued .acceptAll) ∧
          plain.outcome = .ok (.continued .undecided)) := by
  intro skipping accepting plain
  obtain ⟨hloads, hvalues, hskips⟩ := run_steps_skipAll s fs.library scope l prompter
  obtain ⟨hevents, hprompter, haccepts⟩ := run_steps_acceptAll s fs.library scope l prompter
  refine ⟨⟨builder_of_loads hloads, fun message colour hmem => ?_, hvalues, hskips⟩, hevents,
    hprompter, fun b => ?_, haccepts⟩
  · obtain ⟨path, depth, heq⟩ := hloads _ hmem
    cases heq
  · simp only [Run.builder, accepting, plain, hevents]

end PipelineScript
