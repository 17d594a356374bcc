import PipelineScript.Build
import PipelineScript.Proofs.Expander
import PipelineScript.Proofs.Selection.Decided

/-!
# What a run builds

Once the entry definition is loaded, what is built is what the run of the expander ends with. The
expander is the expansion with its selection; without an interactive user it is the expansion alone.
-/

namespace PipelineScript

/-- The pipeline of an entry definition is what its node describes, if that has jobs. -/
theorem Pipeline.load_eq (library : Library) (path : Path) : load library path =
    (library path).bind fun n => (ofNode? n).elim (.error (.missingJobs path)) .ok := by
  rw [load]
  cases library path with
  | error e => rfl
  | ok n => cases hp : ofNode? n <;> simp [Bind.bind, Except.bind, hp] <;> rfl

variable {σ : Type} [Prompting σ] {s : Settings} {library : Library} {path : Path} {p : Pipeline}

/-- A run builds a script if it goes on to the end, none if it is quit, and else it fails. -/
theorem buildScript_of_load (hload : Pipeline.load library path = .ok p) (prompter : σ) :
    let built := buildScript s library path prompter
    let r := (expandPipeline s library p path.directory).run prompter
    built.prompter = r.prompter ∧ built.events = r.events ∧
      (∀ s', r.outcome = .ok (.continued s') →
        built.result = .ok (some ⟨s.script, s.workingDirectory, r.entries⟩)) ∧
      (r.outcome = .ok .terminated → built.result = .ok none) ∧
      ∀ e, r.outcome = .error e → built.result = .error e := by
  rw [buildScript, hload]
  refine ⟨rfl, rfl, fun s' h => ?_, fun h => ?_, fun e h => ?_⟩ <;> simp only [h] <;> rfl

/-- A run that is not interactive builds its script from all that the expansion adds. -/
theorem buildScript_of_not_interactive (hload : Pipeline.load library path = .ok p)
    (hinteractive : s.interactive = false) (prompter : σ) :
    buildScript s library path prompter =
      let r := (Expansion.pipeline s library p path.directory).run prompter
      ⟨r.outcome.map fun _ => some ⟨s.script, s.workingDirectory, r.entries⟩, r.events,
        r.prompter⟩ := by
  have hrun := Dialogue.run_bind_done (Expansion.pipeline s library p path.directory)
    (fun _ => Flow.continued .undecided) prompter
  simp only [buildScript, hload, expandPipeline_eq_select, hinteractive,
    Selection.select_undecided, hrun, Dialogue.Run.entries]
  cases ((Expansion.pipeline s library p path.directory).run prompter).outcome with
  | error e => rfl
  | ok a => rfl

end PipelineScript
