import Mathlib.Tactic.Common
import PipelineScript.Proofs.Expansion.Account
import PipelineScript.Proofs.Expansion.Origin
import PipelineScript.Proofs.Prompter.Notices
import PipelineScript.Proofs.Selection.Walk

/-!
# Filters of commands

The labels to leave out and the supported tasks filter the commands of a script. A run that leaves
out more labels is the same run but for the commands with these labels. A run that supports fewer
tasks comes to the same commands under the same answers and keeps those without a task or of a task
that it supports. It warns of the others, so a prompter that minds warnings may give it other
answers, and it may even fail. A terminal, scripted answers and an unattended run mind none.
-/

namespace PipelineScript

open Dialogue

namespace Script

/-- The script without the commands that are not kept. -/
def filterCommands (keep : Command → Bool) (script : Script) : Script :=
  { script with entries := script.entries.filter fun e => e.command?.all keep }

theorem commands_filterCommands (keep : Command → Bool) (script : Script) :
    (script.filterCommands keep).commands = script.commands.filter keep := by
  rw [commands, commands, filterCommands, List.filterMap_filter, List.filter_filterMap]
  refine congrArg (List.filterMap · _) (funext fun e => ?_)
  cases e.command? with
  | none => rfl
  | some c => rfl

/-- The headers of the jobs stay. -/
theorem jobs_filterCommands (keep : Command → Bool) (script : Script) :
    (script.filterCommands keep).jobs = script.jobs := by
  rw [jobs, jobs, filterCommands, List.filterMap_filter]
  refine congrArg (List.filterMap · _) (funext fun e => ?_)
  cases e with
  | command c => exact ite_self none
  | comment text => rfl
  | line text => rfl
  | job name => rfl

end Script

/-! ### Labels -/

/-- The act is no addition of a command, or the command is kept. -/
def Act.passes (keep : Command → Bool) : Act → Bool
  | .emit c => keep c
  | _ => true

/-- The command has none of these labels. -/
def Command.isUnlabelled (labels : List String) (c : Command) : Bool :=
  !labels.contains c.label

theorem entries_filter_passes (keep : Command → Bool) (events : List Event) :
    (events.filter (Event.isKept (Act.passes keep))).filterMap Event.entry? =
      (events.filterMap Event.entry?).filter fun e => e.command?.all keep := by
  rw [List.filterMap_filter, List.filter_filterMap]
  refine congrArg (List.filterMap · _) (funext fun e => ?_)
  rcases e with (⟨path, depth⟩ | name | c | ⟨message, colour⟩) | ⟨q, r⟩ <;> rfl

/-- A prompter is not told of commands. -/
theorem overlooks_passes {σ : Type} [Prompting σ] (keep : Command → Bool) :
    Overlooks (id : σ → σ) (Act.passes keep) where
  leftOut a s ha := by
    cases a with
    | emit c => rfl
    | load path depth => cases ha
    | job name => cases ha
    | notice message colour => cases ha
  act a _ _ h := congrArg (afterAct · a) h
  answer q _ _ h := congrArg (fun s => (Prompting.ask q s).1) h
  ask q _ _ h := congrArg (fun s => (Prompting.ask q s).2) h

namespace Expansion

variable {s : Settings} {labels labels' tasks : List String}

/-- What is left of a command without the labels to leave out depends on these labels alone. -/
theorem sift_command_labels (h : labels ⊆ labels') (b : Bindings) (c : StepCommand) :
    let keep := Act.passes (Command.isUnlabelled labels')
    (Account.command (s.withFilters labels tasks) b c).sift keep =
      (Account.command (s.withFilters labels' tasks) b c).sift keep := by
  intro keep
  have hsupports : (s.withFilters labels tasks).supports = (s.withFilters labels' tasks).supports :=
    rfl
  rw [Account.command, Account.command, sift_bind, sift_bind, command, command, hsupports]
  refine congrArg (Dialogue.bind · _) ?_
  split
  · rfl
  · by_cases hlabel : c.label ∈ labels'
    · have hmore : (s.withFilters labels' tasks).exclusions.excludesCommand c.label = true :=
        List.contains_iff_mem.2 hlabel
      rw [if_pos hmore]
      split_ifs
      · rfl
      · have hleft : ¬Act.passes (Command.isUnlabelled labels') (.emit
            ⟨c.label, sanitize (s.withFilters labels tasks).workingDirectory b c.script⟩) := by
          simpa [Act.passes, Command.isUnlabelled] using hlabel
        exact if_neg hleft
    · have hmore : ¬(s.withFilters labels' tasks).exclusions.excludesCommand c.label = true :=
        fun hmem => hlabel (List.contains_iff_mem.1 hmem)
      have hfewer : ¬(s.withFilters labels tasks).exclusions.excludesCommand c.label = true :=
        fun hmem => hlabel (h (List.contains_iff_mem.1 hmem))
      rw [if_neg hmore, if_neg hfewer]
      rfl

/-- An expansion adds no command with a label that is left out. -/
theorem everyAct_passes (s : Settings) (library : Library) (entry : Path) (p : Pipeline) :
    EveryAct (fun a => a.passes (Command.isUnlabelled s.exclusions.commands) = true)
      (pipeline s library p entry.directory) := by
  refine (hasOrigin_pipeline s library entry p).imp fun a ha => ?_
  cases a with
  | load path depth => rfl
  | job name => rfl
  | notice message colour => rfl
  | emit c =>
    obtain ⟨directory, step, own, b, -, -, hkeeps, rfl⟩ := ha
    exact (Bool.and_eq_true _ _ ▸ hkeeps).2

/-- The expansion that leaves out more labels is the other one without the commands that have
these labels. -/
theorem sift_pipeline_labels (h : labels ⊆ labels') (library : Library) (entry : Path)
    (p : Pipeline) :
    (pipeline (s.withFilters labels tasks) library p entry.directory).sift
        (Act.passes (Command.isUnlabelled labels')) =
      pipeline (s.withFilters labels' tasks) library p entry.directory := by
  have hleft : (pipeline (s.withFilters labels' tasks) library p entry.directory).sift
      (Act.passes (Command.isUnlabelled labels')) = pipeline (s.withFilters labels' tasks) library p
        entry.directory :=
    sift_eq_self (everyAct_passes (s.withFilters labels' tasks) library entry p)
  rw [← hleft, ← Account.unaccounted_pipeline, ← Account.unaccounted_pipeline, unaccounted,
    unaccounted, sift_bind, sift_bind,
    Account.sift_pipeline (sift_command_labels h)]

/-! ### Tasks -/

/-- If fewer tasks are supported, the commands of these tasks are kept among those that were. -/
theorem keeps_withFilters_tasks {tasks tasks' : List String} (h : tasks ⊆ tasks')
    (c : StepCommand) :
    Flattening.keeps (s.withFilters labels tasks) c =
      (c.task.all tasks.contains && Flattening.keeps (s.withFilters labels tasks') c) := by
  have hsupports (tasks : List String) (task : String) :
      (s.withFilters labels tasks).supports task = tasks.contains task := rfl
  rw [Flattening.keeps, Flattening.keeps, ← Bool.and_assoc]
  congr 1
  cases c.task with
  | none => rfl
  | some task =>
    rw [Option.all_some, Option.all_some, Option.all_some, hsupports, hsupports]
    cases hmem : tasks.contains task with
    | false => rfl
    | true => exact (List.contains_iff_mem.2 (h (List.contains_iff_mem.1 hmem))).symm

/-- Without its commands and notices, the account of a command says that it was come to. -/
theorem sift_command_passesSkipped (s : Settings) (b : Bindings) (c : StepCommand) :
    (Account.command s b c).sift Selection.passesSkipped =
      .done ⟨[⟨c, sanitize s.workingDirectory b c.script⟩], .ok ()⟩ := by
  rw [Account.command]
  cases hkeeps : Flattening.keeps s c with
  | true =>
    rw [command_of_keeps hkeeps]
    rfl
  | false =>
    obtain hpassed | ⟨message, colour, hwarned⟩ := command_of_not_keeps hkeeps b
    · rw [hpassed]
      rfl
    · rw [hwarned]
      rfl

/-- Accounts under two filters are the same without commands and notices. -/
theorem sift_account_passesSkipped (s : Settings) (labels labels' tasks tasks' : List String)
    (library : Library) (p : Pipeline) (base : Path) :
    (Account.pipeline (s.withFilters labels tasks) library p base).sift Selection.passesSkipped =
      (Account.pipeline (s.withFilters labels' tasks') library p base).sift
        Selection.passesSkipped := by
  refine Account.sift_pipeline (fun b c => ?_) library p base
  rw [sift_command_passesSkipped, sift_command_passesSkipped]
  rfl

/-- Expansions under two filters are the same without commands and notices. -/
theorem sift_pipeline_passesSkipped (s : Settings) (labels labels' tasks tasks' : List String)
    (library : Library) (p : Pipeline) (base : Path) :
    (pipeline (s.withFilters labels tasks) library p base).sift Selection.passesSkipped =
      (pipeline (s.withFilters labels' tasks') library p base).sift Selection.passesSkipped := by
  rw [← Account.unaccounted_pipeline, ← Account.unaccounted_pipeline, unaccounted, unaccounted,
    sift_bind, sift_bind, sift_account_passesSkipped s labels labels' tasks tasks']

end Expansion

namespace Account

variable {σ : Type} [Prompting σ] {s : Settings} {labels labels' tasks tasks' : List String}
  {library : Library} {p : Pipeline} {base : Path}

/-- Two expansions whose settings differ in the filters of commands have one account if they are
answered alike: each adds the commands on it that it keeps. -/
theorem exists_of_answeredAlike {prompter : σ} :
    let r := run (s.withFilters labels tasks) library p base prompter
    let r' := run (s.withFilters labels' tasks') library p base prompter
    Prompting.IgnoresNotices σ ∨ AnsweredAlike (exchanges r.events) (exchanges r'.events) →
      ∃ a, r.outcome = .ok a ∧ r'.outcome = .ok a ∧
        r.events.filter (Event.isKept Selection.passesSkipped) =
          r'.events.filter (Event.isKept Selection.passesSkipped) ∧
        commands r.events = (a.occurrences.filter fun o =>
          Flattening.keeps (s.withFilters labels tasks) o.own).map Occurrence.command ∧
        commands r'.events = (a.occurrences.filter fun o =>
          Flattening.keeps (s.withFilters labels' tasks') o.own).map Occurrence.command := by
  intro r r' hsame
  have hsift := Expansion.sift_account_passesSkipped s labels labels' tasks tasks' library p base
  have halike : AnsweredAlike (exchanges r.events) (exchanges r'.events) := by
    rcases hsame with hignores | halike
    · rw [show exchanges r.events = exchanges r'.events from hignores.exchanges_eq hsift prompter]
      exact answeredAlike_self _
    · exact halike
  have htrace := Traces.of_run (pipeline (s.withFilters labels tasks) library p base) prompter
  have htrace' := Traces.of_run (pipeline (s.withFilters labels' tasks') library p base) prompter
  obtain ⟨a, ha, hcommands⟩ := accounts_pipeline _ library p base _ _ htrace
  obtain ⟨a', ha', hcommands'⟩ := accounts_pipeline _ library p base _ _ htrace'
  have hsifted := htrace.sift Selection.passesSkipped
  have hsifted' := htrace'.sift Selection.passesSkipped
  rw [hsift] at hsifted
  obtain ⟨hevents, houtcome⟩ := hsifted.eq_of_answeredAlike hsifted' (by
    rwa [exchanges_filter, exchanges_filter])
  obtain rfl := Except.ok.inj (ha.symm.trans (houtcome.trans ha'))
  exact ⟨a, ha, ha', hevents, hcommands, hcommands'⟩

end Account

/-! ### Building -/

section Building

variable {σ : Type}

/-- The first run is the second one without the commands that are not kept. -/
structure Outcome.IsFiltered (keep : Command → Bool) (fewer more : Outcome Script σ) : Prop where
  result : fewer.result = more.result.map (Option.map (Script.filterCommands keep))
  events : fewer.events = more.events.filter (Event.isKept (Act.passes keep))
  prompter : fewer.prompter = more.prompter

/-- The commands of the script are filtered, and its jobs are the same. -/
theorem Outcome.IsFiltered.script {keep : Command → Bool} {fewer more : Outcome Script σ}
    (h : fewer.IsFiltered keep more) {script script' : Script}
    (hmore : more.result = .ok (some script)) (hfewer : fewer.result = .ok (some script')) :
    script'.commands = script.commands.filter keep ∧ script'.jobs = script.jobs := by
  have hresult := h.result
  rw [hmore, hfewer] at hresult
  obtain rfl := Option.some.inj (Except.ok.inj hresult)
  exact ⟨Script.commands_filterCommands keep script, Script.jobs_filterCommands keep script⟩

/-- Two runs ask the same questions, get the same answers, and end in the same way with the same
jobs. -/
structure Outcome.GoesAlong (fewer more : Outcome Script σ) : Prop where
  exchanges : exchanges fewer.events = exchanges more.events
  result : fewer.result.map (Option.map Script.jobs) = more.result.map (Option.map Script.jobs)

/-- The headers of the jobs are added in what is left without commands and notices. -/
theorem jobs_filter_passesSkipped (events : List Event) :
    ((events.filter (Event.isKept Selection.passesSkipped)).filterMap Event.entry?).filterMap
        Script.Entry.job? =
      (events.filterMap Event.entry?).filterMap Script.Entry.job? := by
  rw [List.filterMap_filterMap, List.filterMap_filter, List.filterMap_filterMap]
  refine congrArg (List.filterMap · _) (funext fun e => ?_)
  rcases e with (⟨path, depth⟩ | name | c | ⟨message, colour⟩) | ⟨q, r⟩ <;> rfl

/-- Runs that end in the same way have the same jobs if what is left of them is the same. -/
theorem Outcome.EndsAs.map_jobs {fewer more : Outcome Script σ} {s s' : Settings}
    {ended : Except GenerationError Unit} (hfewer : fewer.EndsAs s ended)
    (hmore : more.EndsAs s' ended)
    (hevents : fewer.events.filter (Event.isKept Selection.passesSkipped) =
      more.events.filter (Event.isKept Selection.passesSkipped)) :
    fewer.result.map (Option.map Script.jobs) = more.result.map (Option.map Script.jobs) := by
  have hjobs : (fewer.events.filterMap Event.entry?).filterMap Script.Entry.job? =
      (more.events.filterMap Event.entry?).filterMap Script.Entry.job? := by
    rw [← jobs_filter_passesSkipped, hevents, jobs_filter_passesSkipped]
  rw [hfewer, hmore]
  cases ended with
  | error e => rfl
  | ok u => exact congrArg (fun l => Except.ok (some l)) hjobs

variable [Prompting σ] {s : Settings} {library : Library} {path : Path}
  {labels labels' tasks tasks' : List String}

/-- A run that leaves out more labels is the same run but for the commands with these labels. -/
theorem isFiltered_of_labels (h : labels ⊆ labels') (hinteractive : s.interactive = false)
    (library : Library) (path : Path) (tasks : List String) (prompter : σ) :
    (buildScript (s.withFilters labels' tasks) library path prompter).IsFiltered
      (Command.isUnlabelled labels')
      (buildScript (s.withFilters labels tasks) library path prompter) := by
  cases hload : Pipeline.load library path with
  | error e =>
    rw [buildScript, buildScript, hload]
    exact ⟨rfl, rfl, rfl⟩
  | ok p =>
    obtain ⟨houtcome, hevents, hprompter⟩ := run_sift
      (overlooks_passes (Command.isUnlabelled labels'))
      (Expansion.pipeline (s.withFilters labels tasks) library p path.directory)
      (rfl : id prompter = id prompter)
    rw [Expansion.sift_pipeline_labels h] at houtcome hevents hprompter
    rw [buildScript_of_not_interactive (s := s.withFilters labels tasks) hload hinteractive,
      buildScript_of_not_interactive (s := s.withFilters labels' tasks) hload hinteractive]
    refine ⟨?_, hevents, hprompter⟩
    simp only [houtcome, Run.entries, hevents, entries_filter_passes]
    cases ((Expansion.pipeline (s.withFilters labels tasks) library p
      path.directory).run prompter).outcome with
    | error e => rfl
    | ok u => rfl

/-- A run that supports fewer tasks goes along with the other one under the same answers. Both come
to the same commands, and of those that the other one adds it adds the ones without a task or of a
task that it supports. -/
theorem goesAlong_of_tasks (h : tasks ⊆ tasks') (hinteractive : s.interactive = false)
    {prompter : σ} :
    let fewer := buildScript (s.withFilters labels tasks) library path prompter
    let more := buildScript (s.withFilters labels tasks') library path prompter
    Prompting.IgnoresNotices σ ∨ AnsweredAlike (exchanges fewer.events) (exchanges more.events) →
      fewer.GoesAlong more ∧
        ∀ p, Pipeline.load library path = .ok p → ∃ a,
          (Account.run (s.withFilters labels tasks) library p path.directory
              prompter).outcome = .ok a ∧
            (Account.run (s.withFilters labels tasks') library p path.directory
              prompter).outcome = .ok a ∧
            let kept := a.occurrences.filter fun o =>
              Flattening.keeps (s.withFilters labels tasks') o.own
            more.Adds (kept.map Occurrence.command) ∧
              fewer.Adds ((kept.filter fun o => o.own.task.all tasks.contains).map
                Occurrence.command) := by
  intro fewer more hsame
  cases hload : Pipeline.load library path with
  | error e =>
    have hfewer : fewer = ⟨.error e, [], prompter⟩ := by simp [fewer, buildScript, hload]
    have hmore : more = ⟨.error e, [], prompter⟩ := by simp [more, buildScript, hload]
    rw [hfewer, hmore]
    refine ⟨⟨rfl, rfl⟩, fun p hp => ?_⟩
    cases hp
  | ok p =>
    obtain ⟨hfewer, hfewerEnds⟩ :=
      buildScript_endsAs (s := s.withFilters labels tasks) hload hinteractive prompter
    obtain ⟨hmore, hmoreEnds⟩ :=
      buildScript_endsAs (s := s.withFilters labels tasks') hload hinteractive prompter
    rw [show fewer.events = _ from hfewer, show more.events = _ from hmore] at hsame
    obtain ⟨a, ha, ha', hevents, hcommands, hcommands'⟩ := Account.exists_of_answeredAlike hsame
    rw [← hfewer] at hevents hcommands
    rw [← hmore] at hevents hcommands'
    refine ⟨⟨?_, (hfewerEnds a ha).map_jobs (hmoreEnds a ha') hevents⟩, fun p' hp' => ?_⟩
    · rw [← exchanges_filter Selection.passesSkipped, hevents, exchanges_filter]
    · cases hp'
      have hkept : (a.occurrences.filter fun o =>
            Flattening.keeps (s.withFilters labels tasks) o.own) =
          (a.occurrences.filter fun o =>
            Flattening.keeps (s.withFilters labels tasks') o.own).filter fun o =>
              o.own.task.all tasks.contains := by
        simp only [List.filter_filter, Expansion.keeps_withFilters_tasks h]
      rw [hkept] at hcommands
      exact ⟨a, ha, ha', hcommands' ▸ (hmoreEnds a ha').adds, hcommands ▸ (hfewerEnds a ha).adds⟩

end Building

namespace Expander

/-- A command that is not kept is passed over: at most there is a notice, and what has been decided
stays decided. -/
theorem processCommand_of_not_keeps {s : Settings} {own : StepCommand}
    (h : Flattening.keeps s own = false) (b : Bindings) (session : Session) :
    processCommand s b own session = .done (.continued session) ∨
      ∃ message colour, processCommand s b own session =
        .act (.notice message colour) fun _ => .done (.continued session) := by
  rw [processCommand_eq]
  obtain hpassed | ⟨message, colour, hwarned⟩ := Expansion.command_of_not_keeps h b
  · rw [hpassed]
    exact .inl rfl
  · rw [hwarned, perform, Selection.select_notice]
    split_ifs with hskips
    · exact .inl rfl
    · exact .inr ⟨message, colour, rfl⟩

end Expander

variable {σ : Type} [Prompting σ]

/-- Each command that is added or asked about in a run is that of a step that is kept, and its label
is not left out. -/
theorem isWarranted_of_offered {s : Settings} {fs : FileSystem} {path : Path} {p : Pipeline}
    (hload : Pipeline.load fs.library path = .ok p) (prompter : σ) {c : Command} :
    let events := (buildScript s fs.library path prompter).events
    (.acted (.emit c) ∈ events ∨ ∃ answer, .asked (Selection.question c) answer ∈ events) →
      IsWarranted s fs.library path p c ∧ s.exclusions.excludesCommand c.label = false := by
  intro events hc
  obtain ⟨-, hevents, -⟩ := buildScript_of_load (s := s) hload prompter
  obtain ⟨-, hemits, hasks⟩ := expandPipeline_hasOrigin s fs.library path p prompter
  rw [← hevents] at hemits hasks
  have hwarranted : IsWarranted s fs.library path p c :=
    hc.elim (hemits c) fun ⟨answer, hasked⟩ => hasks c answer hasked
  refine ⟨hwarranted, ?_⟩
  obtain ⟨directory, step, own, b, -, -, hkeeps, rfl⟩ := hwarranted
  rw [Flattening.keeps, Bool.and_eq_true, Bool.not_eq_true'] at hkeeps
  exact hkeeps.2

/-- What the filters of commands do to the runs of an entry definition with a prompter. -/
structure FiltersCommands (s : Settings) (fs : FileSystem) (path : Path) (prompter : σ) : Prop where
  /-- In a run that is not interactive, leaving out more labels leaves out the commands with these
  labels, and all else that happens is the same. -/
  labels : s.interactive = false → ∀ labels labels' tasks, labels ⊆ labels' →
    let built (labels : List String) :=
      buildScript (s.withFilters labels tasks) fs.library path prompter
    (built labels').IsFiltered (Command.isUnlabelled labels') (built labels) ∧
      ∀ script script', (built labels).result = .ok (some script) →
        (built labels').result = .ok (some script') →
        script'.commands = script.commands.filter (Command.isUnlabelled labels') ∧
          script'.jobs = script.jobs
  /-- Supporting other tasks makes no difference to the expansion but for commands and notices. -/
  expansion : ∀ labels tasks tasks' p,
    (Expansion.pipeline (s.withFilters labels tasks) fs.library p path.directory).sift
        Selection.passesSkipped =
      (Expansion.pipeline (s.withFilters labels tasks') fs.library p path.directory).sift
        Selection.passesSkipped
  /-- In a run that is not interactive, supporting fewer tasks leaves out the commands of the other
  ones, as long as the answers do not depend on notices, or the same questions are answered in the
  same way. The same is asked, and the run ends in the same way with the same jobs. Of the commands
  that the run comes to and that the other one keeps, it keeps those without a task or of a task
  that it supports. -/
  tasks : s.interactive = false → ∀ labels tasks tasks', tasks ⊆ tasks' →
    let built (tasks : List String) :=
      buildScript (s.withFilters labels tasks) fs.library path prompter
    Prompting.IgnoresNotices σ ∨
        AnsweredAlike (exchanges (built tasks).events) (exchanges (built tasks').events) →
      (built tasks).GoesAlong (built tasks') ∧
        ∀ p, Pipeline.load fs.library path = .ok p → ∃ a,
          (Account.run (s.withFilters labels tasks) fs.library p path.directory
              prompter).outcome = .ok a ∧
            (Account.run (s.withFilters labels tasks') fs.library p path.directory
              prompter).outcome = .ok a ∧
            let kept := a.occurrences.filter fun o =>
              Flattening.keeps (s.withFilters labels tasks') o.own
            (built tasks').Adds (kept.map Occurrence.command) ∧
              (built tasks).Adds
                ((kept.filter fun o => o.own.task.all tasks.contains).map Occurrence.command)
  /-- In any run, each command that is added or asked about is that of a step that is kept. -/
  offered : ∀ p, Pipeline.load fs.library path = .ok p →
    let events := (buildScript s fs.library path prompter).events
    ∀ c, (.acted (.emit c) ∈ events ∨ ∃ answer, .asked (Selection.question c) answer ∈ events) →
      IsWarranted s fs.library path p c ∧ s.exclusions.excludesCommand c.label = false
  /-- A command that is not kept is passed over with a warning at most, and the run goes on with
  what has been decided before. -/
  passedOver : ∀ own, Flattening.keeps s own = false → ∀ b session,
    Expander.processCommand s b own session = .done (.continued session) ∨
      ∃ message colour, Expander.processCommand s b own session =
        .act (.notice message colour) fun _ => .done (.continued session)

/-- The filters of commands filter the script of a run, and that is all they do. For the supported
tasks this is so with a prompter that ignores notices, or under the same answers: a run that
supports fewer tasks warns of commands, and a prompter might mind. -/
theorem buildScript_withFilters (s : Settings) (fs : FileSystem) (path : Path) (prompter : σ) :
    FiltersCommands s fs path prompter where
  labels hinteractive _ _ tasks h :=
    have hfiltered := isFiltered_of_labels h hinteractive fs.library path tasks prompter
    ⟨hfiltered, fun _ _ => hfiltered.script⟩
  expansion labels tasks tasks' p :=
    Expansion.sift_pipeline_passesSkipped s labels labels tasks tasks' fs.library p path.directory
  tasks hinteractive _ _ _ h := goesAlong_of_tasks h hinteractive
  offered _ hload _ := isWarranted_of_offered hload prompter
  passedOver _ h b session := Expander.processCommand_of_not_keeps h b session

/-- A pipeline with a command of a task in its template, and two commands without a task. -/
def filteringFiles : FileSystem :=
  .ofFiles
    [(["p"], "jobs:\n- steps:\n  - template: t\n  - script: make\n    displayName: build\n"),
     (["t"], "steps:\n- script: lint\n  task: Bash@3\n  displayName: check\n" ++
      "- script: fmt\n  displayName: style\n")]

/-- The pipeline in `filteringFiles`. -/
def filteringPipeline : Pipeline :=
  ⟨[⟨unnamedJob, [⟨some ⟨"t", []⟩, none⟩, ⟨none, some ⟨some "build", none, "make"⟩⟩], true⟩]⟩

/-- The commands that the expansion of the pipeline in `filteringFiles` comes to. -/
def filteringAccount : Account :=
  ⟨[⟨⟨some "check", some "Bash@3", "lint"⟩, "lint"⟩, ⟨⟨some "style", none, "fmt"⟩, "fmt"⟩,
    ⟨⟨some "build", none, "make"⟩, "make"⟩], .ok ()⟩

/-- A label that is left out and a task that is not supported each cost one command. -/
theorem buildScript_withFilters_filtering :
    let built (labels tasks : List String) := buildScript (({} : Settings).withFilters labels tasks)
      filteringFiles.library ⟨"/p"⟩ (⟨""⟩ : Unattended)
    (∃ script, (built ["style"] ["Bash@3"]).result = .ok (some script) ∧
        script.commands = [⟨"check", "lint"⟩, ⟨"build", "make"⟩]) ∧
      (built [] []).Adds [⟨"style", "fmt"⟩, ⟨"build", "make"⟩] := by
  intro built
  have hall : (built [] ["Bash@3"]).result = .ok (some ⟨{}, ".", [.job unnamedJob,
      .command ⟨"check", "lint"⟩, .command ⟨"style", "fmt"⟩, .command ⟨"build", "make"⟩]⟩) := by
    decide +kernel
  have hfilters := buildScript_withFilters {} filteringFiles ⟨"/p"⟩ (⟨""⟩ : Unattended)
  constructor
  · obtain ⟨hfiltered, -⟩ := hfilters.labels rfl [] ["style"] ["Bash@3"] (by decide)
    have hresult := hfiltered.result
    rw [show (buildScript _ _ _ _).result = _ from hall] at hresult
    exact ⟨_, hresult, by decide +kernel⟩
  · obtain ⟨-, haccounts⟩ :=
      hfilters.tasks rfl [] [] ["Bash@3"] (by decide) (.inl Unattended.ignoresNotices)
    have hload : Pipeline.load filteringFiles.library ⟨"/p"⟩ = .ok filteringPipeline := by
      decide +kernel
    obtain ⟨a, -, ha, -, hadds⟩ := haccounts filteringPipeline hload
    have haccount : (Account.run (({} : Settings).withFilters [] ["Bash@3"])
        filteringFiles.library filteringPipeline (Path.directory ⟨"/p"⟩)
          (⟨""⟩ : Unattended)).outcome = .ok filteringAccount := by
      decide +kernel
    obtain rfl := Except.ok.inj (ha.symm.trans haccount)
    exact hadds

/-- A prompter that gives values until it is shown a notice. -/
structure Touchy where
  told : Bool

instance : Prompting Touchy where
  ask _ s := (if s.told then .error .closed else .ok (.text "web"), s)
  notify _ _ _ := ⟨true⟩

/-- A pipeline with a command of a task in front of a template that asks for a value. -/
def warningFiles : FileSystem :=
  .ofFiles
    [(["p"], "jobs:\n- steps:\n  - script: lint\n    task: Bash@3\n  - template: t\n"),
     (["t"], "parameters: [x]\nsteps:\n- script: make\n")]

/-- With a prompter that minds notices, a run may fail because fewer tasks are supported. -/
theorem buildScript_tasks_noticed :
    let built (tasks : List String) := buildScript (({} : Settings).withFilters [] tasks)
      warningFiles.library ⟨"/p"⟩ (⟨false⟩ : Touchy)
    (built []).result = .error (.unanswered .closed) ∧
      (built ["Bash@3"]).result = .ok (some ⟨{}, ".", [.job unnamedJob,
        .command ⟨unnamedCommand, "lint"⟩, .command ⟨unnamedCommand, "make"⟩]⟩) ∧
      ¬∀ (σ : Type) [Prompting σ] (s : Settings) (fs : FileSystem) (path : Path) (prompter : σ)
        (labels tasks tasks' : List String), s.interactive = false → tasks ⊆ tasks' →
          (buildScript (s.withFilters labels tasks) fs.library path
              prompter).result.map Option.isSome =
            (buildScript (s.withFilters labels tasks') fs.library path
              prompter).result.map Option.isSome := by
  intro built
  have hfewer : (built []).result = .error (.unanswered .closed) := by decide +kernel
  have hmore : (built ["Bash@3"]).result = .ok (some ⟨{}, ".", [.job unnamedJob,
      .command ⟨unnamedCommand, "lint"⟩, .command ⟨unnamedCommand, "make"⟩]⟩) := by
    decide +kernel
  refine ⟨hfewer, hmore, fun h => ?_⟩
  have hresult := h Touchy {} warningFiles ⟨"/p"⟩ ⟨false⟩ [] [] ["Bash@3"] rfl
    (List.nil_subset _)
  rw [show (buildScript _ _ _ _).result = _ from hfewer,
    show (buildScript _ _ _ _).result = _ from hmore] at hresult
  cases hresult

end PipelineScript
