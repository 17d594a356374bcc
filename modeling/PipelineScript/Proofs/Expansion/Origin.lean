import Mathlib.Tactic.Common
import PipelineScript.Proofs.Dialogue.Possibility
import PipelineScript.Proofs.Expansion.Nesting
import PipelineScript.Proofs.Selection.Quit

/-!
# Where loads and commands come from

However deep an expansion is, a template is loaded for a reference of a step that the expansion may
come to, and a command is added for the command of such a step. A selection asks about no other
commands. So what is left out is left out everywhere: a reference that is excluded makes nothing be
loaded, and a command that is not kept is neither added nor asked about.
-/

namespace PipelineScript

open Dialogue

/-- A step that an expansion may come to refers to the template at this path. -/
def IsRequested (s : Settings) (library : Library) (entry : Path) (p : Pipeline) (path : Path) :
    Prop :=
  ∃ directory step r, Reached s library entry p directory step ∧ step.reference? s = some r ∧
    path = directory.join r.path

/-- The command is that of a step that an expansion may come to, with values for its parameters,
and it is neither excluded nor of an unsupported task. -/
def IsWarranted (s : Settings) (library : Library) (entry : Path) (p : Pipeline) (c : Command) :
    Prop :=
  ∃ directory step own b, Reached s library entry p directory step ∧ step.command = some own ∧
    Flattening.keeps s own ∧ c = ⟨own.label, sanitize s.workingDirectory b own.script⟩

namespace Expansion

/-- An act that the steps account for to which an expansion may come. -/
def HasOrigin (s : Settings) (library : Library) (entry : Path) (p : Pipeline) : Act → Prop
  | .load path _ => IsRequested s library entry p path
  | .emit c => IsWarranted s library entry p c
  | _ => True

variable {s : Settings} {library : Library} {entry : Path} {p : Pipeline}

/-- The command of a step that is reached is added only if it is kept. -/
theorem hasOrigin_command {directory : Path} {step : Step} {own : StepCommand}
    (hreached : Reached s library entry p directory step) (hown : step.command = some own)
    (b : Bindings) : EveryAct (HasOrigin s library entry p) (command s b own) := by
  cases hkeeps : Flattening.keeps s own with
  | true =>
    rw [command_of_keeps hkeeps]
    exact .act ⟨directory, step, own, b, hreached, hown, hkeeps, rfl⟩ (.done ())
  | false =>
    obtain hpassed | ⟨message, colour, hwarned⟩ := command_of_not_keeps hkeeps b
    · rw [hpassed]
      exact .done ()
    · rw [hwarned]
      exact .act trivial (.done ())

/-- If the steps of a template are reached, they account for all that is done below it. -/
theorem hasOrigin_templateFrom {levels depth : Nat} {path : Path}
    (hrequested : IsRequested s library entry p path)
    (hreached : ∀ n, library path = .ok n → ∀ step ∈ (Template.ofNode n).steps,
      Reached s library entry p path.directory step) (b : Bindings) :
    EveryAct (HasOrigin s library entry p) (templateFrom s library levels depth path b) := by
  induction levels generalizing depth path b with
  | zero => exact .fail _
  | succ levels ih =>
    rw [templateFrom_succ]
    refine .act hrequested ?_
    cases hn : library path with
    | error e => exact .fail e
    | ok n =>
      rw [Dialogue.ofExcept, bind_done]
      refine .bind (everyAct_bindParameters _ _ b) fun b' => ?_
      refine everyAct_stepsWith
        (fun step hstep own hown => hasOrigin_command (hreached n hn step hstep) hown b')
        fun step hstep r hr b'' => ?_
      have hstep := hreached n hn step hstep
      exact ih ⟨_, step, r, hstep, hr, rfl⟩ (fun n' hn' _ hmem => .ofTemplate hstep hr hn' hmem) b''

theorem hasOrigin_steps {l : List Step}
    (hreached : ∀ step ∈ l, Reached s library entry p entry.directory step) :
    EveryAct (HasOrigin s library entry p) (steps s library (.root entry.directory) l) := by
  refine everyAct_stepsWith
    (fun step hstep own hown => hasOrigin_command (hreached step hstep) hown _)
    fun step hstep r hr b => ?_
  have hstep := hreached step hstep
  exact hasOrigin_templateFrom ⟨_, step, r, hstep, hr, rfl⟩
    (fun n hn _ hmem => .ofTemplate hstep hr hn hmem) b

theorem hasOrigin_jobs {js : List Job} (hjs : ∀ j ∈ js, j ∈ p.jobs) :
    EveryAct (HasOrigin s library entry p) (jobs s library entry.directory js) := by
  induction js with
  | nil => exact .done ()
  | cons j js ih =>
    rw [jobs_cons]
    refine .bind ?_ fun _ => ih fun j' hj' => hjs j' (List.mem_cons_of_mem _ hj')
    split_ifs with hdeclares
    · exact .bind (.act trivial (.done ())) fun _ =>
        hasOrigin_steps fun step hstep => .ofJob (hjs j List.mem_cons_self) hdeclares hstep
    · exact .done ()

/-- The steps that an expansion may come to account for all that it does. -/
theorem hasOrigin_pipeline (s : Settings) (library : Library) (entry : Path) (p : Pipeline) :
    EveryAct (HasOrigin s library entry p) (pipeline s library p entry.directory) :=
  hasOrigin_jobs fun _ hj => hj

end Expansion

namespace Selection

/-- The question about a command shows the command. -/
theorem question_inj {c c' : Command} (h : question c = question c') : c = c' := by
  obtain ⟨label, text⟩ := c
  obtain ⟨label', text'⟩ := c'
  have htext := congrArg Question.text h
  obtain rfl : label = label' := by simpa [question, toString] using htext
  have hcontext := congrArg Question.context h
  obtain rfl : text = text' := by simpa [question, toString] using hcontext
  rfl

variable {α σ : Type} [Prompting σ] {P : Act → Prop} {d : Dialogue α}

/-- A selection asks about no command that the dialogue would not offer. -/
theorem emits_of_asked (hvalues : Expansion.AsksForValues d) (h : EveryAct P d)
    {interactive : Bool} {s : Session} {prompter : σ} {c : Command}
    {r : Except PromptError Response}
    (hasked : .asked (question c) r ∈ ((select interactive s d).run prompter).events) :
    P (.emit c) := by
  induction h generalizing s prompter with
  | done a => cases hasked
  | fail e => cases hasked
  | ask q h ih =>
    obtain ⟨⟨parameter, template, rfl⟩, hnext⟩ := hvalues.of_ask
    rcases List.mem_cons.1 hasked with heq | hasked
    · exact absurd (Event.asked.inj heq).1 (question_ne_parameterQuestion c parameter template)
    · exact ih _ (hnext _) hasked
  | @act a next ha h ih =>
    have hnext : Expansion.AsksForValues (next ()) := hvalues.of_act
    have hlater {d : Dialogue Flow} {a : Act} {prompter : σ}
        (hmem : .asked (question c) r ∈ ((Dialogue.act a fun _ => d).run prompter).events) :
        .asked (question c) r ∈ (d.run (afterAct prompter a)).events := by
      rcases List.mem_cons.1 hmem with heq | hmem
      · cases heq
      · exact hmem
    cases a with
    | load path depth => exact ih hnext (hlater hasked)
    | job name => exact ih hnext (hlater hasked)
    | notice message colour =>
      rw [select_notice] at hasked
      split_ifs at hasked
      · exact ih hnext hasked
      · exact ih hnext (hlater hasked)
    | emit c' =>
      rw [select_emit] at hasked
      split_ifs at hasked
      · exact ih hnext hasked
      · rcases List.mem_cons.1 hasked with heq | hasked
        · obtain rfl := question_inj (Event.asked.inj heq).1
          exact ha
        · generalize Prompting.ask (question c') prompter = answer at hasked
          obtain ⟨e | answer, prompter'⟩ := answer
          · cases hasked
          · simp only [answered] at hasked
            cases hchoice : choiceOf answer <;> simp only [hchoice] at hasked
            case yes => exact ih hnext (hlater hasked)
            case no => exact ih hnext hasked
            case acceptRemaining => exact ih hnext (hlater (hlater hasked))
            case skipRemaining => exact ih hnext (hlater hasked)
            case quit => cases hlater hasked
      · exact ih hnext (hlater hasked)

end Selection

open Expansion

variable {σ : Type} [Prompting σ]

/-- The steps that an expansion may come to account for each template that is loaded in its run with
a selection, and for each command that is added to the script or asked about. -/
theorem expandPipeline_hasOrigin (s : Settings) (library : Library) (entry : Path) (p : Pipeline)
    (prompter : σ) :
    let r := (expandPipeline s library p entry.directory).run prompter
    (∀ path depth, .acted (.load path depth) ∈ r.events →
        IsRequested s library entry p path) ∧
      (∀ c, .acted (.emit c) ∈ r.events → IsWarranted s library entry p c) ∧
      ∀ c answer, .asked (Selection.question c) answer ∈ r.events →
        IsWarranted s library entry p c := by
  intro r
  have hacts := hasOrigin_pipeline s library entry p
  have hselected : EveryAct (HasOrigin s library entry p)
      (expandPipeline s library p entry.directory) := by
    rw [expandPipeline_eq_select]
    exact Selection.everyAct_select (fun _ _ => trivial) hacts s.interactive .undecided
  refine ⟨fun path depth hload => ?_, fun c hemit => ?_, fun c answer hasked => ?_⟩
  · exact hselected.run prompter hload
  · exact hselected.run prompter hemit
  · have hvalues := asksForValues_pipeline s library p entry.directory
    simp only [r, expandPipeline_eq_select] at hasked
    exact Selection.emits_of_asked hvalues hacts hasked

end PipelineScript
