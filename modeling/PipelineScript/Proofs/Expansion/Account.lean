import Mathlib.Tactic.Common
import PipelineScript.Proofs.Dialogue.Lead
import PipelineScript.Proofs.Dialogue.Trace
import PipelineScript.Proofs.Expansion.Nesting

/-!
# Accounts of expansions

An expansion adds the commands that are kept, and it does not say from which steps they are. Its
account does: it is the expansion with a list of all commands that it comes to, kept or not, each
with the step command that it is. Without that list the account is the expansion again, and the
commands that are added are those of the list that are kept.

What is left of an account without its commands and notices does not depend on which commands are
kept. So two expansions that differ in nothing else come to the same commands under the same
answers.

No account fails: a failure is put on it, so that it tells of the commands before the failure.
-/

namespace PipelineScript

/-- A command that an expansion comes to: the command of a step, and its text with the values of
the parameters. -/
structure Occurrence where
  own : StepCommand
  text : String
  deriving DecidableEq, Repr

/-- The command that is added if the occurrence is kept. -/
def Occurrence.command (o : Occurrence) : Command :=
  ⟨o.own.label, o.text⟩

/-- The commands that an expansion came to, kept or not, and how it ended. -/
structure Account where
  occurrences : List Occurrence
  result : Except GenerationError Unit
  deriving DecidableEq

/-- The settings with other labels of commands to leave out and other supported tasks. -/
def Settings.withFilters (s : Settings) (labels tasks : List String) : Settings :=
  { s with exclusions := { s.exclusions with commands := labels }, supportedTasks := tasks }

namespace Dialogue

variable {α σ : Type} {keep : Act → Bool}

/-- The commands that are added in events. -/
def commands (events : List Event) : List Command :=
  (events.filterMap Event.entry?).filterMap Script.Entry.command?

theorem commands_append (events events' : List Event) :
    commands (events ++ events') = commands events ++ commands events' := by
  simp only [commands, List.filterMap_append]

/-- Goes on with the result of a dialogue to an account; a failure is put on the account. -/
def thenAccount : Dialogue α → (α → Dialogue Account) → Dialogue Account
  | done a, f => f a
  | fail e, _ => done ⟨[], .error e⟩
  | act a next, f => act a fun _ => thenAccount (next ()) f
  | ask q next, f => ask q fun r => thenAccount (next r) f

/-- The account of a dialogue and of another one behind it. -/
def followedBy (first second : Dialogue Account) : Dialogue Account :=
  first.bind fun a =>
    match a.result with
    | .error _ => done a
    | .ok () => second.bind fun a' => done ⟨a.occurrences ++ a'.occurrences, a'.result⟩

/-- The dialogue without its account of occurrences. -/
def unaccounted (d : Dialogue Account) : Dialogue Unit :=
  d.bind fun a => ofExcept a.result

theorem unaccounted_thenAccount (d : Dialogue α) (f : α → Dialogue Account) :
    (d.thenAccount f).unaccounted = d.bind fun a => (f a).unaccounted := by
  induction d with
  | done a => rfl
  | fail e => rfl
  | act a next ih => exact congrArg (act a) (funext ih)
  | ask q next ih => exact congrArg (ask q) (funext ih)

theorem unaccounted_followedBy (first second : Dialogue Account) :
    (first.followedBy second).unaccounted =
      first.unaccounted.bind fun _ => second.unaccounted := by
  simp only [unaccounted, followedBy, bind_assoc]
  refine congrArg first.bind (funext fun a => ?_)
  obtain ⟨occurrences, e | ⟨⟩⟩ := a
  · rfl
  · exact bind_assoc second _ _

theorem sift_thenAccount (d : Dialogue α) (f : α → Dialogue Account) :
    (d.thenAccount f).sift keep = (d.sift keep).thenAccount fun a => (f a).sift keep := by
  induction d with
  | done a => rfl
  | fail e => rfl
  | act a next ih =>
    rw [thenAccount, sift, sift, ih]
    split_ifs <;> rfl
  | ask q next ih => exact congrArg (ask q) (funext ih)

theorem sift_followedBy (first second : Dialogue Account) :
    (first.followedBy second).sift keep = (first.sift keep).followedBy (second.sift keep) := by
  rw [followedBy, sift_bind, followedBy]
  refine congrArg (first.sift keep).bind (funext fun a => ?_)
  obtain ⟨occurrences, e | ⟨⟩⟩ := a
  · rfl
  · exact sift_bind second _

end Dialogue

open Dialogue

/-! ### Accounts of steps, templates and jobs -/

namespace Account

/-- Nothing was come to. -/
def nothing : Dialogue Account :=
  .done ⟨[], .ok ()⟩

/-- The account of a command, which is come to whether it is kept or not. -/
def command (s : Settings) (b : Bindings) (c : StepCommand) : Dialogue Account :=
  (Expansion.command s b c).bind fun _ =>
    .done ⟨[⟨c, sanitize s.workingDirectory b c.script⟩], .ok ()⟩

/-- The account of steps, of which `nested` accounts for the templates. -/
def stepsWith (s : Settings) (nested : Path → Bindings → Dialogue Account) (scope : Scope) :
    List Step → Dialogue Account
  | [] => nothing
  | step :: rest =>
    ((step.reference? s).elim nothing fun r =>
        nested (scope.base.join r.path) (Flattening.supplied s scope.bindings r)).followedBy
      ((step.command.elim nothing (command s scope.bindings)).followedBy
        (stepsWith s nested scope rest))

/-- The account of a template. -/
def templateFrom (s : Settings) (library : Library) :
    Nat → Nat → Path → Bindings → Dialogue Account
  | 0, _, path, _ => .done ⟨[], .error (.nestedTooDeep path s.maxTemplateDepth)⟩
  | levels + 1, depth, path, b =>
    .act (.load path depth) fun _ => (Dialogue.ofExcept (library path)).thenAccount fun n =>
      (Expansion.bindParameters (Expansion.templateName path)
          (Template.ofNode n).parameters b).thenAccount fun b' =>
        stepsWith s (templateFrom s library levels (depth + 1)) ⟨path.directory, b', depth⟩
          (Template.ofNode n).steps

/-- The account of steps. -/
def steps (s : Settings) (library : Library) (scope : Scope) (l : List Step) :
    Dialogue Account :=
  let depth := scope.depth + 1
  stepsWith s (templateFrom s library (s.maxTemplateDepth + 1 - depth) depth) scope l

/-- The account of jobs. -/
def jobs (s : Settings) (library : Library) (base : Path) : List Job → Dialogue Account
  | [] => nothing
  | j :: js =>
    (if j.declaresSteps then .act (.job j.name) fun _ => steps s library (.root base) j.steps
      else nothing).followedBy (jobs s library base js)

/-- The account of a pipeline. -/
def pipeline (s : Settings) (library : Library) (p : Pipeline) (base : Path) : Dialogue Account :=
  jobs s library base p.jobs

/-! ### The expansion that is accounted for -/

variable (s : Settings) (library : Library)

theorem unaccounted_command (b : Bindings) (c : StepCommand) :
    (command s b c).unaccounted = Expansion.command s b c := by
  rw [command, unaccounted, bind_assoc, Expansion.command]
  split
  · rfl
  · split_ifs <;> rfl

theorem unaccounted_stepsWith {nested : Path → Bindings → Dialogue Account}
    {nested' : Path → Bindings → Dialogue Unit}
    (hnested : ∀ path b, (nested path b).unaccounted = nested' path b) (scope : Scope)
    (l : List Step) :
    (stepsWith s nested scope l).unaccounted = Expansion.stepsWith s nested' scope l := by
  induction l with
  | nil => rfl
  | cons step rest ih =>
    rw [stepsWith, unaccounted_followedBy, unaccounted_followedBy, ih, Expansion.stepsWith,
      Expansion.elim_template]
    have htemplate : ((step.reference? s).elim nothing fun r =>
          nested (scope.base.join r.path) (Flattening.supplied s scope.bindings r)).unaccounted =
        (step.reference? s).elim (.done ()) fun r =>
          nested' (scope.base.join r.path) (Flattening.supplied s scope.bindings r) := by
      cases step.reference? s with
      | none => rfl
      | some r => exact hnested _ _
    have hown : (step.command.elim nothing (command s scope.bindings)).unaccounted =
        step.command.elim (.done ()) (Expansion.command s scope.bindings) := by
      cases step.command with
      | none => rfl
      | some c => exact unaccounted_command s scope.bindings c
    rw [htemplate, hown]
    rfl

theorem unaccounted_templateFrom (levels depth : Nat) (path : Path) (b : Bindings) :
    (templateFrom s library levels depth path b).unaccounted =
      Expansion.templateFrom s library levels depth path b := by
  induction levels generalizing depth path b with
  | zero => rfl
  | succ levels ih =>
    rw [Expansion.templateFrom_succ, templateFrom]
    refine congrArg (Dialogue.act _) (funext fun _ => ?_)
    refine (unaccounted_thenAccount _ _).trans (congrArg _ (funext fun n => ?_))
    refine (unaccounted_thenAccount _ _).trans (congrArg _ (funext fun b' => ?_))
    exact unaccounted_stepsWith s (fun path' b'' => ih (depth + 1) path' b'') _ _

theorem unaccounted_jobs (base : Path) (js : List Job) :
    (jobs s library base js).unaccounted = Expansion.jobs s library base js := by
  induction js with
  | nil => rfl
  | cons j js ih =>
    rw [jobs, unaccounted_followedBy, ih, Expansion.jobs_cons]
    split_ifs
    · have hsteps : (steps s library (.root base) j.steps).unaccounted =
          Expansion.steps s library (.root base) j.steps :=
        unaccounted_stepsWith s (fun _ _ => unaccounted_templateFrom s library _ _ _ _) _ _
      rw [← hsteps]
      rfl
    · rfl

/-- Without its list the account of a pipeline is the expansion of the pipeline. -/
theorem unaccounted_pipeline (p : Pipeline) (base : Path) :
    (pipeline s library p base).unaccounted = Expansion.pipeline s library p base :=
  unaccounted_jobs s library base p.jobs

/-! ### The commands that are added -/

/-- A dialogue never fails, and the commands that it adds are those of its account that are
kept. -/
def Accounts (s : Settings) (d : Dialogue Account) : Prop :=
  ∀ events r, Traces d events r → ∃ a, r = .ok a ∧
    commands events =
      (a.occurrences.filter fun o => Flattening.keeps s o.own).map Occurrence.command

namespace Accounts

variable {s : Settings} {α : Type} {d d' : Dialogue Account}

theorem empty (r : Except GenerationError Unit) : Accounts s (.done ⟨[], r⟩) := by
  intro events r' h
  cases h
  exact ⟨_, rfl, rfl⟩

theorem act {a : Act} {next : Unit → Dialogue Account} (ha : commands [.acted a] = [])
    (h : Accounts s (next ())) : Accounts s (.act a next) := by
  intro events r htrace
  cases htrace with
  | @act _ _ later _ htrace =>
    obtain ⟨account, hr, hcommands⟩ := h _ _ htrace
    refine ⟨account, hr, ?_⟩
    rw [← List.singleton_append, commands_append, ha, List.nil_append, hcommands]

theorem thenAccount {d : Dialogue α} {f : α → Dialogue Account}
    (hd : EveryAct (fun a => commands [.acted a] = []) d) (hf : ∀ a, Accounts s (f a)) :
    Accounts s (d.thenAccount f) := by
  induction hd with
  | done a => exact hf a
  | fail e => exact .empty _
  | act ha hd ih => exact .act ha ih
  | ask q hd ih =>
    intro events r htrace
    cases htrace with
    | ask _ answer htrace =>
      obtain ⟨account, hr, hcommands⟩ := ih answer _ _ htrace
      exact ⟨account, hr, hcommands⟩

theorem followedBy (h : Accounts s d) (h' : Accounts s d') : Accounts s (d.followedBy d') := by
  intro events r htrace
  rw [Dialogue.followedBy] at htrace
  obtain ⟨e, hfirst, -⟩ | ⟨a, first, later, hfirst, hlater, rfl⟩ := htrace.of_bind
  · obtain ⟨a, ha, -⟩ := h _ _ hfirst
    cases ha
  obtain ⟨_, ha, hfirst⟩ := h _ _ hfirst
  cases ha
  obtain ⟨occurrences, e | ⟨⟩⟩ := a
  · cases hlater
    exact ⟨_, rfl, by rw [List.append_nil, hfirst]⟩
  · obtain ⟨e, hsecond, -⟩ | ⟨a', second, last, hsecond, hlast, rfl⟩ := hlater.of_bind
    · obtain ⟨a, ha, -⟩ := h' _ _ hsecond
      cases ha
    obtain ⟨_, ha, hsecond⟩ := h' _ _ hsecond
    cases ha
    cases hlast
    refine ⟨_, rfl, ?_⟩
    rw [List.append_nil, commands_append, hfirst, hsecond, List.filter_append, List.map_append]

end Accounts

/-- A command adds itself if it is kept, and it is come to in any case. -/
theorem accounts_command (b : Bindings) (c : StepCommand) : Accounts s (command s b c) := by
  intro events r h
  cases hkeeps : Flattening.keeps s c with
  | true =>
    rw [command, Expansion.command_of_keeps hkeeps] at h
    cases h with
    | act _ h =>
      cases h
      refine ⟨_, rfl, ?_⟩
      simp [commands, Event.entry?, Script.Entry.command?, Occurrence.command, hkeeps]
  | false =>
    obtain hpassed | ⟨message, colour, hwarned⟩ := Expansion.command_of_not_keeps hkeeps b
    · rw [command, hpassed] at h
      cases h
      exact ⟨_, rfl, by simp [commands, hkeeps]⟩
    · rw [command, hwarned] at h
      cases h with
      | act _ h =>
        cases h
        exact ⟨_, rfl, by simp [commands, Event.entry?, hkeeps]⟩

theorem accounts_stepsWith {nested : Path → Bindings → Dialogue Account}
    (hnested : ∀ path b, Accounts s (nested path b)) (scope : Scope) (l : List Step) :
    Accounts s (stepsWith s nested scope l) := by
  induction l with
  | nil => exact .empty _
  | cons step rest ih =>
    refine .followedBy ?_ (.followedBy ?_ ih)
    · cases step.reference? s with
      | none => exact .empty _
      | some r => exact hnested _ _
    · cases step.command with
      | none => exact .empty _
      | some c => exact accounts_command s scope.bindings c

theorem accounts_templateFrom (levels depth : Nat) (path : Path) (b : Bindings) :
    Accounts s (templateFrom s library levels depth path b) := by
  induction levels generalizing depth path b with
  | zero => exact .empty _
  | succ levels ih =>
    refine .act rfl (.thenAccount (.ofExcept _) fun n => ?_)
    refine .thenAccount (Expansion.everyAct_bindParameters _ _ b) fun b' => ?_
    exact accounts_stepsWith s (fun path' b'' => ih (depth + 1) path' b'') _ _

theorem accounts_steps (scope : Scope) (l : List Step) : Accounts s (steps s library scope l) :=
  accounts_stepsWith s (fun _ _ => accounts_templateFrom s library _ _ _ _) scope l

theorem accounts_jobs (base : Path) (js : List Job) : Accounts s (jobs s library base js) := by
  induction js with
  | nil => exact .empty _
  | cons j js ih =>
    refine .followedBy ?_ ih
    split_ifs
    · exact .act rfl (accounts_steps s library _ _)
    · exact .empty _

/-- The commands that the expansion of a pipeline adds are those that it comes to and that are
kept. -/
theorem accounts_pipeline (p : Pipeline) (base : Path) :
    Accounts s (pipeline s library p base) :=
  accounts_jobs s library base p.jobs

/-! ### Other filters -/

section Filters

variable {s : Settings} {keep : Act → Bool} {labels labels' tasks tasks' : List String}
variable (hcommand : ∀ b c, (command (s.withFilters labels tasks) b c).sift keep =
  (command (s.withFilters labels' tasks') b c).sift keep)
include hcommand

theorem sift_stepsWith {nested nested' : Path → Bindings → Dialogue Account}
    (hnested : ∀ path b, (nested path b).sift keep = (nested' path b).sift keep) (scope : Scope)
    (l : List Step) :
    (stepsWith (s.withFilters labels tasks) nested scope l).sift keep =
      (stepsWith (s.withFilters labels' tasks') nested' scope l).sift keep := by
  induction l with
  | nil => rfl
  | cons step rest ih =>
    have hreference : step.reference? (s.withFilters labels tasks) =
        step.reference? (s.withFilters labels' tasks') := rfl
    simp only [stepsWith, sift_followedBy, ih, hreference]
    congr 1
    · cases step.reference? (s.withFilters labels' tasks') with
      | none => rfl
      | some r => exact hnested _ _
    · congr 1
      cases step.command with
      | none => rfl
      | some c => exact hcommand scope.bindings c

theorem sift_templateFrom (library : Library) (levels depth : Nat) (path : Path) (b : Bindings) :
    (templateFrom (s.withFilters labels tasks) library levels depth path b).sift keep =
      (templateFrom (s.withFilters labels' tasks') library levels depth path b).sift keep := by
  induction levels generalizing depth path b with
  | zero => rfl
  | succ levels ih =>
    simp only [templateFrom, sift, sift_thenAccount]
    have hsteps (scope : Scope) (l : List Step) :=
      sift_stepsWith hcommand (fun path' b' => ih (depth + 1) path' b') scope l
    simp only [hsteps]

theorem sift_steps (library : Library) (scope : Scope) (l : List Step) :
    (steps (s.withFilters labels tasks) library scope l).sift keep =
      (steps (s.withFilters labels' tasks') library scope l).sift keep :=
  sift_stepsWith hcommand (fun _ _ => sift_templateFrom hcommand library _ _ _ _) scope l

theorem sift_jobs (library : Library) (base : Path) (js : List Job) :
    (jobs (s.withFilters labels tasks) library base js).sift keep =
      (jobs (s.withFilters labels' tasks') library base js).sift keep := by
  induction js with
  | nil => rfl
  | cons j js ih =>
    simp only [jobs, sift_followedBy, ih]
    congr 1
    split_ifs
    · simp only [sift, sift_steps hcommand]
    · rfl

/-- What is left of the account of a pipeline does not depend on the filters if what is left of
the account of each command does not. -/
theorem sift_pipeline (library : Library) (p : Pipeline) (base : Path) :
    (pipeline (s.withFilters labels tasks) library p base).sift keep =
      (pipeline (s.withFilters labels' tasks') library p base).sift keep :=
  sift_jobs hcommand library base p.jobs

end Filters

end Account

/-! ### Building -/

section Building

variable {σ : Type}

/-- The run of a pipeline with its account. -/
def Account.run [Prompting σ] (s : Settings) (library : Library) (p : Pipeline) (base : Path)
    (prompter : σ) : Run Account σ :=
  (pipeline s library p base).run prompter

/-- A run without its account has the result that is on the account. -/
theorem Dialogue.run_unaccounted [Prompting σ] (d : Dialogue Account) (prompter : σ) :
    d.unaccounted.run prompter =
      ⟨(d.run prompter).outcome.bind Account.result, (d.run prompter).events,
        (d.run prompter).prompter⟩ := by
  rw [unaccounted]
  induction d generalizing prompter with
  | done a =>
    obtain ⟨occurrences, e | u⟩ := a
    · rfl
    · rfl
  | fail e => rfl
  | act a next ih => simp only [Dialogue.bind, Dialogue.run, ih]
  | ask q next ih => simp only [Dialogue.bind, Dialogue.run, ih]

/-- The run adds these commands, and if it builds a script, they are the commands of the script. -/
def Outcome.Adds (built : Outcome Script σ) (l : List Command) : Prop :=
  commands built.events = l ∧ ∀ script, built.result = .ok (some script) → script.commands = l

/-- The run ends in this way, and if it does not fail, its script has all that was added on the
way. -/
def Outcome.EndsAs (built : Outcome Script σ) (s : Settings) (ended : Except GenerationError Unit) :
    Prop :=
  built.result = ended.map fun _ =>
    some ⟨s.script, s.workingDirectory, built.events.filterMap Event.entry?⟩

theorem Outcome.EndsAs.adds {built : Outcome Script σ} {s : Settings}
    {ended : Except GenerationError Unit} (h : built.EndsAs s ended) :
    built.Adds (commands built.events) := by
  refine ⟨rfl, fun script hscript => ?_⟩
  rw [h] at hscript
  cases ended with
  | error e => cases hscript
  | ok u =>
    cases hscript
    rfl

/-- A run that is not interactive ends as its account says. -/
theorem buildScript_endsAs [Prompting σ] {s : Settings} {library : Library} {path : Path}
    {p : Pipeline} (hload : Pipeline.load library path = .ok p)
    (hinteractive : s.interactive = false) (prompter : σ) :
    let built := buildScript s library path prompter
    let r := Account.run s library p path.directory prompter
    built.events = r.events ∧ ∀ a, r.outcome = .ok a → built.EndsAs s a.result := by
  rw [buildScript_of_not_interactive hload hinteractive, ← Account.unaccounted_pipeline,
    run_unaccounted]
  refine ⟨rfl, fun a ha => ?_⟩
  rw [show ((Account.pipeline s library p path.directory).run prompter).outcome = _ from ha]
  rfl

end Building

end PipelineScript
