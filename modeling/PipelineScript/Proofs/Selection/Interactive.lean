import PipelineScript.Proofs.Expansion.Questions
import PipelineScript.Proofs.Expansion.Unasked
import PipelineScript.Proofs.Selection.Walk

/-!
# Interactive runs

An interactive run expands the same pipeline as a plain one. If the plain run succeeds with nobody
to ask, the interactive run with choices given in advance is the walk over the commands of the
plain script: a session that is lost on the way out of a template, or a question that shows another
text than the one that is emitted, would set the two apart.
-/

namespace PipelineScript

namespace Expansion

variable (s : Settings) (library : Library) (interactive : Bool)

theorem stepsWith_interactive (nested : Path → Bindings → Dialogue Unit) (scope : Scope)
    (l : List Step) :
    stepsWith { s with interactive } nested scope l = stepsWith s nested scope l := by
  induction l with
  | nil => rfl
  | cons step rest ih =>
    rw [stepsWith, stepsWith, ih]
    rfl

theorem templateFrom_interactive (levels depth : Nat) (path : Path) (b : Bindings) :
    templateFrom { s with interactive } library levels depth path b =
      templateFrom s library levels depth path b := by
  induction levels generalizing depth path b with
  | zero => rfl
  | succ levels ih =>
    have hnested : templateFrom { s with interactive } library levels (depth + 1) =
        templateFrom s library levels (depth + 1) := by
      funext path' b'
      exact ih (depth + 1) path' b'
    simp only [templateFrom, hnested, stepsWith_interactive]

theorem jobs_interactive (base : Path) (js : List Job) :
    jobs { s with interactive } library base js = jobs s library base js := by
  induction js with
  | nil => rfl
  | cons j js ih =>
    rw [jobs_cons, jobs_cons, ih]
    simp only [steps, template, stepsWith_interactive, templateFrom_interactive]

/-- Whether a run is interactive makes no difference to the expansion. -/
theorem pipeline_interactive (p : Pipeline) (base : Path) :
    pipeline { s with interactive } library p base = pipeline s library p base :=
  jobs_interactive s library interactive base p.jobs

end Expansion

/-- The acts of a plain run that succeeds with nobody to ask, and the script that they make. -/
theorem performs_of_buildScript {s : Settings} {library : Library} {path : Path} {u : Unattended}
    {script : Script} (hinteractive : s.interactive = false)
    (hplain : (buildScript s library path u).result = .ok (some script)) :
    ∃ p acts, Pipeline.load library path = .ok p ∧
      (Expansion.pipeline s library p path.directory).Performs acts (.ok ()) ∧
      script.entries = acts.filterMap Act.added? := by
  cases hload : Pipeline.load library path with
  | error e => simp [buildScript, hload] at hplain
  | ok p =>
    rw [buildScript_of_not_interactive hload hinteractive] at hplain
    have hasks := Expansion.asksForValues_pipeline s library p path.directory
    cases houtcome : ((Expansion.pipeline s library p path.directory).run u).outcome with
    | error e => simp [houtcome, Except.map] at hplain
    | ok a =>
      obtain ⟨acts, hacts⟩ := hasks.performs_of_run houtcome
      simp only [houtcome, Except.map, Except.ok.injEq, Option.some.injEq,
        hacts.run_entries] at hplain
      exact ⟨p, acts, rfl, hacts, by rw [← hplain]⟩

/-- If a run that is not interactive succeeds with nobody to ask, the interactive run with choices
given in advance is the walk over its commands. Each question shows the label and the text of the
command that the walk is at. -/
theorem buildScript_interactive_eq_walk (s : Settings) (fs : FileSystem) (path : Path)
    (u : Unattended) (cs : List Choice) {plain : Script}
    (hplain : (buildScript { s with interactive := false } fs.library path u).result =
      .ok (some plain)) :
    let built := buildScript { s with interactive := true } fs.library path (Scripted.ofChoices cs)
    let w := Selection.walk plain.commands cs
    built.prompter.asked = w.asked.map Selection.question ∧
      (built.prompter.asked.map (·.context) =
        w.asked.map fun c => some s!"Processing command: {c.label}:\n{c.text}\n") ∧
      built.prompter.responses = w.rest.map .choice ∧
      match w.ending with
      | .finished => ∃ script, built.result = .ok (some script) ∧ script.commands = w.kept ∧
          script.commands.Sublist plain.commands ∧ script.jobs = plain.jobs
      | .quit => built.result = .ok none
      | .closed => built.result = .error (.unanswered .closed) := by
  intro built w
  obtain ⟨p, acts, hload, hacts, hentries⟩ := performs_of_buildScript rfl hplain
  rw [Expansion.pipeline_interactive, ← Expansion.pipeline_interactive s fs.library true] at hacts
  have hfollows : Selection.Follows ((expandPipeline { s with interactive := true } fs.library p
      path.directory).run (Scripted.ofChoices cs)) w [] plain.entries := by
    rw [expandPipeline_eq_select]
    simp only [w, Script.commands, hentries]
    exact Selection.follows_walk hacts cs [] []
  obtain ⟨hprompter, -, hcontinued, hterminated, hfailed⟩ :=
    buildScript_of_load (s := { s with interactive := true }) hload (Scripted.ofChoices cs)
  have hasked : built.prompter.asked = w.asked.map Selection.question := by
    rw [hprompter, hfollows.asked, List.nil_append]
  refine ⟨hasked, ?_, ?_, ?_⟩
  · rw [hasked, List.map_map]
    rfl
  · rw [hprompter, hfollows.responses]
  · cases hending : w.ending with
    | finished =>
      obtain ⟨⟨s', houtcome⟩, hkept, hsub, hjobs⟩ := hfollows.finished hending
      exact ⟨_, hcontinued s' houtcome, hkept, hsub.filterMap _, hjobs⟩
    | quit => exact hterminated (hfollows.quit hending)
    | closed => exact hfailed _ (hfollows.closed hending)

/-- If the first of two commands is declined and the second is confirmed, the second is kept. -/
theorem buildScript_interactive_eq_walk_forwarding :
    (buildScript { interactive := false } forwardingFiles.library ⟨"/p"⟩
        (⟨""⟩ : Unattended)).result =
      .ok (some ⟨{}, ".", [.job unnamedJob, .command ⟨unnamedCommand, "lint web"⟩,
        .command ⟨unnamedCommand, "make"⟩]⟩) ∧
      ∃ script, (buildScript { interactive := true } forwardingFiles.library ⟨"/p"⟩
          (Scripted.ofChoices [.no, .yes])).result = .ok (some script) ∧
        script.commands = [⟨unnamedCommand, "make"⟩] := by
  have hwalk := buildScript_interactive_eq_walk {} forwardingFiles ⟨"/p"⟩ ⟨""⟩ [.no, .yes]
    buildScript_forwardingFiles
  obtain ⟨-, -, -, script, hscript, hkept, -⟩ := hwalk
  exact ⟨buildScript_forwardingFiles, script, hscript, hkept⟩

end PipelineScript
