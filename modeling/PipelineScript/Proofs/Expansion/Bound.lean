import PipelineScript.Proofs.Dialogue.Extension
import PipelineScript.Proofs.Expansion.Recursion
import PipelineScript.Proofs.Script.Decoding
import PipelineScript.Proofs.Build

/-!
# Raising the bound on nesting

The bound on the nesting of templates decides nothing but where a run is cut off. The expansion
under a higher bound extends the one under a lower bound, so a run that was not cut off is the same
under any higher bound, and a run that was cut off is the beginning of the longer one.
-/

namespace PipelineScript

/-- The settings with another bound on the nesting of templates. -/
def Settings.withDepth (s : Settings) (limit : Nat) : Settings :=
  { s with maxTemplateDepth := limit }

namespace Expansion

open Dialogue

variable (s : Settings) (library : Library) (limit : Nat)

/-- The bound makes no difference to steps but through the templates that they refer to. -/
theorem extends_stepsWith {nested nested' : Path → Bindings → Dialogue Unit}
    (hnested : ∀ path b, Extends (nested path b) (nested' path b)) (scope : Scope)
    (l : List Step) :
    Extends (stepsWith s nested scope l) (stepsWith (s.withDepth limit) nested' scope l) := by
  induction l with
  | nil => exact .done ()
  | cons step rest ih =>
    refine .bind ?_ fun _ => .bind (.refl _) fun _ => ih
    have hreference : step.reference? (s.withDepth limit) = step.reference? s := rfl
    rw [elim_template, elim_template, hreference]
    cases step.reference? s with
    | none => exact .done ()
    | some r => exact hnested _ _

/-- With more levels, the expansion of a template extends the one with fewer. -/
theorem extends_templateFrom {levels levels' : Nat} (hlevels : levels ≤ levels') (depth : Nat)
    (path : Path) (b : Bindings) :
    Extends (templateFrom s library levels depth path b)
      (templateFrom (s.withDepth limit) library levels' depth path b) := by
  induction levels generalizing levels' depth path b with
  | zero => exact .beyond path s.maxTemplateDepth _
  | succ levels ih =>
    obtain ⟨levels', rfl⟩ : ∃ n, levels' = n + 1 := ⟨levels' - 1, by omega⟩
    have hnested := ih (Nat.le_of_succ_le_succ hlevels) (depth + 1)
    rw [templateFrom_succ, templateFrom_succ]
    refine .act _ (.bind (.refl _) fun n => .bind (.refl _) fun b' => ?_)
    exact extends_stepsWith s limit hnested _ _

variable {limit}

theorem extends_steps (hlimit : s.maxTemplateDepth ≤ limit) (scope : Scope) (l : List Step) :
    Extends (steps s library scope l) (steps (s.withDepth limit) library scope l) := by
  have hlevels := Nat.sub_le_sub_right (Nat.succ_le_succ hlimit) (scope.depth + 1)
  exact extends_stepsWith s limit (extends_templateFrom s library limit hlevels _) scope l

theorem extends_jobs (hlimit : s.maxTemplateDepth ≤ limit) (base : Path) (js : List Job) :
    Extends (jobs s library base js) (jobs (s.withDepth limit) library base js) := by
  induction js with
  | nil => exact .done ()
  | cons j js ih =>
    rw [jobs_cons, jobs_cons]
    refine .bind ?_ fun _ => ih
    split_ifs
    · exact .bind (.refl _) fun _ => extends_steps s library hlimit _ _
    · exact .done ()

/-- The expansion of a pipeline under a higher bound extends the one under a lower bound. -/
theorem extends_pipeline (hlimit : s.maxTemplateDepth ≤ limit) (p : Pipeline) (base : Path) :
    Extends (pipeline s library p base) (pipeline (s.withDepth limit) library p base) :=
  extends_jobs s library hlimit base p.jobs

end Expansion

/-! ### Building -/

/-- The text that the script has when a run ends, however it ends. -/
def Outcome.text [Quoting] {α σ : Type} (s : Settings) (o : Outcome α σ) : String :=
  Script.contents ⟨s.script, s.workingDirectory, o.events.filterMap Dialogue.Event.entry?⟩

/-- What happens later in a run adds to the text of the script. -/
theorem Outcome.text_prefix [Quoting] {α σ : Type} (s : Settings) {o o' : Outcome α σ}
    (h : o.events <+: o'.events) : (o.text s).toList <+: (o'.text s).toList := by
  obtain ⟨later, hlater⟩ := h
  rw [Outcome.text, Outcome.text, ← hlater, List.filterMap_append]
  have happend := Script.contents_append
    ⟨s.script, s.workingDirectory, o.events.filterMap Dialogue.Event.entry?⟩
    (later.filterMap Dialogue.Event.entry?)
  rw [happend, String.toList_append]
  exact List.prefix_append _ _

/-- A higher bound on nesting leaves a run that was not cut off as it is: its result with the text
and the commands of the script, its questions and notices, and the prompter behind it. If the run
was cut off, what happened until then is how the run under the higher bound begins, and so is the
text that the script had. -/
theorem buildScript_withDepth {σ : Type} [Quoting] [Prompting σ] (s : Settings) (fs : FileSystem)
    (path : Path) (prompter : σ) {limit : Nat} (hlimit : s.maxTemplateDepth ≤ limit) :
    let built := buildScript s fs.library path prompter
    let raised := buildScript (s.withDepth limit) fs.library path prompter
    ((∀ template limit, built.result ≠ .error (.nestedTooDeep template limit)) → raised = built) ∧
      ((∃ template limit, built.result = .error (.nestedTooDeep template limit)) →
        built.events <+: raised.events ∧
          (built.text s).toList <+: (raised.text (s.withDepth limit)).toList) := by
  intro built raised
  cases hload : Pipeline.load fs.library path with
  | error e =>
    have hraised : raised = built := by simp only [raised, built, buildScript, hload]
    refine ⟨fun _ => hraised, fun _ => ?_⟩
    rw [hraised]
    exact ⟨List.prefix_rfl, List.prefix_rfl⟩
  | ok p =>
    have hextends : (expandPipeline s fs.library p path.directory).Extends
        (expandPipeline (s.withDepth limit) fs.library p path.directory) := by
      rw [expandPipeline_eq_select, expandPipeline_eq_select]
      exact Selection.extends_select
        (Expansion.extends_pipeline s fs.library hlimit p path.directory) s.interactive .undecided
    obtain ⟨-, hevents, -, -, hfailed⟩ := buildScript_of_load (s := s) hload prompter
    obtain ⟨-, hevents', -⟩ := buildScript_of_load (s := s.withDepth limit) hload prompter
    refine ⟨fun hnotcut => ?_, fun _ => ?_⟩
    · have hrun := hextends.run_eq (s := prompter) fun template bound hcut =>
        hnotcut template bound (hfailed _ hcut)
      simp only [raised, built, buildScript, hload]
      simp only [Settings.withDepth] at hrun ⊢
      rw [hrun]
    · have hbegins : built.events <+: raised.events := by
        rw [hevents, hevents']
        exact hextends.events_prefix prompter
      exact ⟨hbegins, Outcome.text_prefix s hbegins⟩

/-- A bound of one cuts off the inner template of `forwardingFiles`; a bound of a hundred changes
nothing, since the pipeline is nested two deep. -/
theorem buildScript_withDepth_forwarding :
    let library := forwardingFiles.library
    let unattended : Unattended := ⟨""⟩
    let cut := buildScript (Settings.withDepth {} 1) library ⟨"/p"⟩ unattended
    let full := buildScript {} library ⟨"/p"⟩ unattended
    cut.result = .error (.nestedTooDeep ⟨"/t/b"⟩ 1) ∧ cut.events <+: full.events ∧
      buildScript (Settings.withDepth {} 100) library ⟨"/p"⟩ unattended = full := by
  intro library unattended cut full
  let _ : Quoting := .posix
  have hcut : cut.result = .error (.nestedTooDeep ⟨"/t/b"⟩ 1) := by decide +kernel
  have hlow : 1 ≤ 32 := by decide
  have hhigh : 32 ≤ 100 := by decide
  obtain ⟨-, hcutoff⟩ :=
    buildScript_withDepth (Settings.withDepth {} 1) forwardingFiles ⟨"/p"⟩ unattended hlow
  obtain ⟨hsame, -⟩ := buildScript_withDepth {} forwardingFiles ⟨"/p"⟩ unattended hhigh
  refine ⟨hcut, (hcutoff ⟨_, _, hcut⟩).1, hsame fun template limit h => ?_⟩
  rw [buildScript_forwardingFiles] at h
  cases h

end PipelineScript
