import Mathlib.Tactic.Common
import PipelineScript.Proofs.Bindings
import PipelineScript.Proofs.Build
import PipelineScript.Proofs.Dialogue.Performance
import PipelineScript.Proofs.Expansion.Flattening
import PipelineScript.Proofs.FileSystem.OfFiles

/-!
# Expansions that ask nothing

If every reference supplies the parameters that its template declares, the expansion of a pipeline
asks nothing, whatever its prompter would answer, and a run that is not interactive builds the
script of the flattening.
-/

namespace PipelineScript

namespace Expansion

open Dialogue

/-- The dialogue asks nothing, and it adds to the script what a part is flattened to. -/
def Yields (d : Dialogue Unit) (flat : Flattening) : Prop :=
  ∃ acts, Performs d acts (flat.map fun _ => ()) ∧
    ∀ entries, flat = .ok entries → acts.filterMap Act.added? = entries

namespace Yields

variable {d d' : Dialogue Unit} {flat flat' : Flattening}

theorem done : Yields (.done ()) (.ok []) :=
  ⟨[], .done (), fun _ h => Except.ok.inj h⟩

theorem perform (a : Act) : Yields (.perform a) (.ok a.added?.toList) := by
  refine ⟨[a], .perform a, fun entries h => ?_⟩
  rw [← Except.ok.inj h]
  cases ha : a.added? <;> simp [ha]

theorem fail (e : GenerationError) : Yields (.fail e) (.error e) :=
  ⟨[], .fail e, fun _ h => nomatch h⟩

/-- Acts that add nothing may stand in front. -/
theorem act {a : Act} {next : Unit → Dialogue Unit} (ha : a.added? = none)
    (h : Yields (next ()) flat) : Yields (.act a next) flat := by
  obtain ⟨acts, hacts, hentries⟩ := h
  exact ⟨a :: acts, .act a hacts, by simpa [ha] using hentries⟩

theorem andThen (h : Yields d flat) (h' : Yields d' flat') :
    Yields (d.bind fun _ => d') (flat.andThen flat') := by
  obtain ⟨acts, hacts, hentries⟩ := h
  obtain ⟨acts', hacts', hentries'⟩ := h'
  cases flat with
  | error e => exact ⟨acts, hacts.bind_error _, fun _ h => nomatch h⟩
  | ok entries =>
    have hmap : (Flattening.andThen (.ok entries) flat').map (fun _ => ()) =
        flat'.map fun _ => () := by
      cases flat' <;> rfl
    refine ⟨acts ++ acts', hmap ▸ hacts.bind hacts', fun all h => ?_⟩
    cases flat' with
    | error e => cases h
    | ok more =>
      cases h
      rw [List.filterMap_append, hentries entries rfl, hentries' more rfl]

/-- A run of a dialogue that yields a flattening asks nothing, and it ends as the flattening does
with what that adds to the script. -/
theorem run {σ : Type} [Prompting σ] (h : Yields d flat) (s : σ) :
    (∀ q r, .asked q r ∉ (d.run s).events) ∧
      (d.run s).outcome.map (fun _ => (d.run s).entries) = flat := by
  obtain ⟨acts, hacts, hentries⟩ := h
  obtain ⟨houtcome, hevents⟩ := hacts.run s
  refine ⟨fun q r h => by simp [hevents] at h, ?_⟩
  rw [houtcome, hacts.run_entries]
  cases flat with
  | error e => rfl
  | ok entries => exact congrArg Except.ok (hentries entries rfl)

end Yields

variable {s : Settings} {library : Library} {entry : Path} {p : Pipeline}

/-- A command that is kept is added. -/
theorem command_of_keeps {c : StepCommand} (h : Flattening.keeps s c = true) (b : Bindings) :
    command s b c = .perform (.emit ⟨c.label, sanitize s.workingDirectory b c.script⟩) := by
  rw [Flattening.keeps, Bool.and_eq_true, Bool.not_eq_true'] at h
  have htask : c.task.filter (!s.supports ·) = none := by
    cases ht : c.task with
    | none => rfl
    | some task =>
      rw [ht, Option.all_some] at h
      exact Option.filter_some_neg (by simp [h.1])
  rw [command, htask, h.2]
  rfl

/-- A command that is not kept is passed over, perhaps with a warning. -/
theorem command_of_not_keeps {c : StepCommand} (h : Flattening.keeps s c = false) (b : Bindings) :
    command s b c = .done () ∨
      ∃ message colour, command s b c = .perform (.notice message colour) := by
  rw [command]
  split
  next task htask => exact .inr ⟨_, _, rfl⟩
  next htask =>
    have hsupported : c.task.all s.supports = true := by
      cases ht : c.task with
      | none => rfl
      | some task => simpa [ht] using htask
    rw [Flattening.keeps, hsupported, Bool.true_and, Bool.not_eq_false'] at h
    exact .inl (if_pos h)

theorem yields_command (s : Settings) (b : Bindings) (c : StepCommand) :
    Yields (command s b c) (Flattening.command s b c) := by
  rw [Flattening.command]
  cases hkeeps : Flattening.keeps s c with
  | true =>
    rw [command_of_keeps hkeeps]
    exact .perform _
  | false =>
    obtain hpassed | ⟨message, colour, hwarned⟩ := command_of_not_keeps hkeeps b
    · rw [hpassed]
      exact .done
    · rw [hwarned]
      exact .perform _

theorem bindParameters_of_supplied (template : String) {names : List String} {b : Bindings}
    (h : ∀ name ∈ names, (b.lookup name).isSome) : bindParameters template names b = .done b := by
  induction names with
  | nil => rfl
  | cons name names ih =>
    rw [bindParameters, if_pos (h name List.mem_cons_self)]
    exact ih fun name' hname' => h name' (List.mem_cons_of_mem _ hname')

/-- A step expands the template that it refers to, unless that is left out. -/
theorem elim_template (s : Settings) (nested : Path → Bindings → Dialogue Unit) (scope : Scope)
    (step : Step) :
    step.template.elim (.done ()) (reference s nested scope) =
      (step.reference? s).elim (.done ()) fun r =>
        nested (scope.base.join r.path) (Flattening.supplied s scope.bindings r) := by
  rw [Step.reference?]
  cases step.template with
  | none => rfl
  | some r =>
    rw [Option.elim_some, reference]
    cases hx : s.exclusions.excludesTemplate r.path with
    | true =>
      rw [Option.filter_some_neg (by simp [hx])]
      rfl
    | false =>
      rw [Option.filter_some_pos (by simp [hx])]
      rfl

/-- Steps yield their flattening if the templates that they refer to do. -/
theorem yields_stepsWith {nested : Path → Bindings → Dialogue Unit} {scope : Scope}
    {steps : List Step} (hnested : ∀ step ∈ steps, ∀ r, step.reference? s = some r →
      Yields (nested (scope.base.join r.path) (Flattening.supplied s scope.bindings r))
        (Flattening.template s library (scope.base.join r.path)
          (Flattening.supplied s scope.bindings r) (scope.depth + 1))) :
    Yields (stepsWith s nested scope steps) (Flattening.steps s library scope steps) := by
  induction steps with
  | nil =>
    rw [Flattening.steps]
    exact .done
  | cons step rest ih =>
    rw [Flattening.steps]
    refine .andThen ?_ (.andThen ?_ (ih fun step' hstep => hnested step' (.tail _ hstep)))
    · rw [elim_template]
      cases hr : step.reference? s with
      | none => exact .done
      | some r => exact hnested step List.mem_cons_self r hr
    · cases step.command with
      | none => exact .done
      | some c => exact yields_command s scope.bindings c

/-- A template yields its flattening if its parameters are supplied, and so are those of the
templates beneath it. -/
theorem yields_templateFrom (hsupplied : SuppliesParameters s library entry p) {levels depth : Nat}
    (hlevels : levels = s.maxTemplateDepth + 1 - depth) {path : Path} {b : Bindings}
    (hb : ∀ n, library path = .ok n → ∀ name ∈ (Template.ofNode n).parameters,
      (b.lookup name).isSome)
    (hreached : ∀ n, library path = .ok n → ∀ step ∈ (Template.ofNode n).steps,
      Reached s library entry p path.directory step) :
    Yields (templateFrom s library levels depth path b)
      (Flattening.template s library path b depth) := by
  induction levels generalizing depth path b with
  | zero =>
    rw [Flattening.template, if_pos (by omega)]
    exact .fail _
  | succ levels ih =>
    rw [Flattening.template, if_neg (by omega), templateFrom]
    refine .act rfl ?_
    cases hn : library path with
    | error e => exact .fail e
    | ok n =>
      have hbind := bindParameters_of_supplied (templateName path) (hb n hn)
      simp only [Dialogue.ofExcept, Dialogue.bind_eq_bind, Dialogue.bind_done, hbind]
      refine yields_stepsWith fun step hstep r hr => ih (by omega) ?_ ?_
      · intro n' hn' name hname
        rw [Flattening.supplied, Bindings.isSome_lookup_ofEntries, List.map_map]
        exact hsupplied _ _ r n' (hreached n hn step hstep) hr hn' name hname
      · intro n' hn' nested hmem
        exact .ofTemplate (hreached n hn step hstep) hr hn' hmem

/-- The steps of a job yield their flattening if every reference supplies its parameters. -/
theorem yields_steps (hsupplied : SuppliesParameters s library entry p) {l : List Step}
    (hreached : ∀ step ∈ l, Reached s library entry p entry.directory step) :
    Yields (steps s library (.root entry.directory) l)
      (Flattening.steps s library (.root entry.directory) l) := by
  refine yields_stepsWith fun step hstep r hr =>
    yields_templateFrom hsupplied rfl (fun n hn name hname => ?_) fun n hn nested hmem => ?_
  · rw [Flattening.supplied, Bindings.isSome_lookup_ofEntries, List.map_map]
    exact hsupplied _ _ r n (hreached step hstep) hr hn name hname
  · exact .ofTemplate (hreached step hstep) hr hn hmem

theorem yields_jobs (hsupplied : SuppliesParameters s library entry p) {js : List Job}
    (hjs : ∀ j ∈ js, j ∈ p.jobs) :
    Yields (jobs s library entry.directory js)
      (Flattening.jobs s library entry.directory js) := by
  induction js with
  | nil => exact .done
  | cons j js ih =>
    rw [jobs_cons, Flattening.jobs]
    refine .andThen ?_ (ih fun j' hj' => hjs j' (List.mem_cons_of_mem _ hj'))
    split_ifs with hdeclares
    · have hsteps := yields_steps hsupplied fun step hstep =>
        .ofJob (hjs j List.mem_cons_self) hdeclares hstep
      exact (Yields.perform (.job j.name)).andThen hsteps
    · exact .done

/-- The expansion of a pipeline yields its flattening if every reference supplies its
parameters. -/
theorem yields_pipeline (hsupplied : SuppliesParameters s library entry p) :
    Yields (pipeline s library p entry.directory) (Flattening.pipeline s library entry p) :=
  yields_jobs hsupplied fun _ hj => hj

end Expansion

/-! ### Building -/

variable {σ : Type} [Prompting σ]

/-- If every reference supplies the parameters that its template declares, a run that is not
interactive asks nothing, and it builds the script of the flattening or fails as the flattening
does. The commands of the script are those of the flattening. -/
theorem buildScript_eq_flattening (s : Settings) (fs : FileSystem) (path : Path) (prompter : σ)
    {p : Pipeline} (hload : Pipeline.load fs.library path = .ok p)
    (hinteractive : s.interactive = false) (hsupplied : SuppliesParameters s fs.library path p) :
    let built := buildScript s fs.library path prompter
    let flat := Flattening.pipeline s fs.library path p
    (∀ q r, .asked q r ∉ built.events) ∧
      built.result = flat.map (fun entries => some ⟨s.script, s.workingDirectory, entries⟩) ∧
      ((∃ script, built.result = .ok (some script)) ↔ ∃ entries, flat = .ok entries) ∧
      ∀ script, built.result = .ok (some script) →
        flat = .ok script.entries ∧ script.commands = Flattening.commands script.entries := by
  intro built flat
  have hbuilt := buildScript_of_not_interactive hload hinteractive prompter
  obtain ⟨hunasked, hflat⟩ := (Expansion.yields_pipeline hsupplied).run prompter
  generalize (Expansion.pipeline s fs.library p path.directory).run prompter = r at *
  have hresult : built.result =
      flat.map fun entries => some ⟨s.script, s.workingDirectory, entries⟩ := by
    rw [show built = _ from hbuilt, show flat = _ from hflat.symm]
    obtain ⟨outcome, events, after⟩ := r
    cases outcome with
    | error e => rfl
    | ok a => rfl
  refine ⟨?_, hresult, ?_, fun script h => ?_⟩
  · rw [show built = _ from hbuilt]
    exact hunasked
  · rw [hresult]
    cases flat <;> simp [Except.map]
  · rw [hresult] at h
    cases hentries : flat with
    | error e => simp [hentries, Except.map] at h
    | ok entries =>
      simp only [hentries, Except.map, Except.ok.injEq, Option.some.injEq] at h
      exact ⟨by rw [← h], rfl⟩

/-- A pipeline whose template forwards its parameter to another one in its own directory. -/
def forwardingFiles : FileSystem :=
  .ofFiles
    [(["p"], "jobs:\n- steps:\n  - template: t/a\n    parameters:\n      x: web\n"),
     (["t", "a"], "parameters: [x]\nsteps:\n- template: b\n  parameters:\n" ++
      "    y: $\x7b\x7bparameters.x\x7d\x7d\n  script: make\n"),
     (["t", "b"], "parameters: [y]\nsteps:\n- script: lint $\x7b\x7bparameters.y\x7d\x7d\n")]

/-- The pipeline in `forwardingFiles`. -/
def forwardingPipeline : Pipeline :=
  ⟨[⟨unnamedJob, [⟨some ⟨"t/a", [("x", "web")]⟩, none⟩], true⟩]⟩

/-- The steps that the expansion of `forwardingPipeline` comes to. -/
def forwardingPlaces : List (Path × Step) :=
  [(⟨"/"⟩, ⟨some ⟨"t/a", [("x", "web")]⟩, none⟩),
    (⟨"/t"⟩, ⟨some ⟨"b", [("y", "$\x7b\x7bparameters.x\x7d\x7d")]⟩, some ⟨none, none, "make"⟩⟩),
    (⟨"/t"⟩, ⟨none, some ⟨none, none, "lint $\x7b\x7bparameters.y\x7d\x7d"⟩⟩)]

/-- The script that is built from `forwardingFiles` with nobody to ask. -/
theorem buildScript_forwardingFiles :
    (buildScript {} forwardingFiles.library ⟨"/p"⟩ (⟨""⟩ : Unattended)).result =
      .ok (some ⟨{}, ".", [.job unnamedJob, .command ⟨unnamedCommand, "lint web"⟩,
        .command ⟨unnamedCommand, "make"⟩]⟩) := by
  decide +kernel

/-- A forwarded parameter reaches the command of the inner template. -/
theorem buildScript_eq_flattening_forwarding :
    Pipeline.load forwardingFiles.library ⟨"/p"⟩ = .ok forwardingPipeline ∧
      SuppliesParameters {} forwardingFiles.library ⟨"/p"⟩ forwardingPipeline ∧
      Flattening.pipeline {} forwardingFiles.library ⟨"/p"⟩ forwardingPipeline =
        .ok [.job unnamedJob, .command ⟨unnamedCommand, "lint web"⟩,
          .command ⟨unnamedCommand, "make"⟩] := by
  have hload : Pipeline.load forwardingFiles.library ⟨"/p"⟩ = .ok forwardingPipeline := by
    decide +kernel
  have hsupplied : SuppliesParameters {} forwardingFiles.library ⟨"/p"⟩ forwardingPipeline :=
    .of_suppliesWithin forwardingPlaces (by decide +kernel)
  obtain ⟨-, -, -, hscript⟩ :=
    buildScript_eq_flattening {} forwardingFiles ⟨"/p"⟩ (⟨""⟩ : Unattended) hload rfl hsupplied
  exact ⟨hload, hsupplied, (hscript _ buildScript_forwardingFiles).1⟩

end PipelineScript
