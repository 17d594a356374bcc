import Mathlib.Tactic.Common
import Mathlib.Data.Nat.Find
import PipelineScript.Proofs.Build
import PipelineScript.Proofs.Dialogue.Possibility
import PipelineScript.Proofs.Expansion.Recursion
import PipelineScript.Proofs.FileSystem.Reading

/-!
# The nesting of templates

Nothing looks for cycles among templates, and the bound on nesting makes up for that. An expansion
that comes to its end has read every template to which its steps lead, whatever was answered and
whatever values the parameters had. So each chain of references fits into the bound, and no chain
comes back to a template: the steps of that template would have to be read within fewer levels than
they need.
-/

namespace PipelineScript

namespace Expansion

open Dialogue

/-! ### Chains of references -/

/-- A chain of references, each of them in the template to which the one before leads, by the paths
of the templates. The first is in steps whose references are made in the directory `base`. -/
inductive Chain (s : Settings) (library : Library) : Path → List Step → List Path → Prop
  | last {base : Path} {l : List Step} {step : Step} {r : TemplateReference} (hstep : step ∈ l)
      (hr : step.reference? s = some r) : Chain s library base l [base.join r.path]
  | cons {base : Path} {l : List Step} {step : Step} {r : TemplateReference} {n : Node}
      {paths : List Path} (hstep : step ∈ l) (hr : step.reference? s = some r)
      (hn : library (base.join r.path) = .ok n)
      (h : Chain s library (base.join r.path).directory (Template.ofNode n).steps paths) :
      Chain s library base l (base.join r.path :: paths)

/-- The template at a path can be read with all templates to which its steps lead, within this many
levels. -/
inductive Explored (s : Settings) (library : Library) : Nat → Path → Prop
  | intro {levels : Nat} {path : Path} {n : Node} (hn : library path = .ok n)
      (h : ∀ step ∈ (Template.ofNode n).steps, ∀ r, step.reference? s = some r →
        Explored s library levels (path.directory.join r.path)) :
      Explored s library (levels + 1) path

/-- All templates to which steps lead can be read within this many levels. -/
def ExploredSteps (s : Settings) (library : Library) (levels : Nat) (base : Path)
    (l : List Step) : Prop :=
  ∀ step ∈ l, ∀ r, step.reference? s = some r → Explored s library levels (base.join r.path)

section Chains

variable {s : Settings} {library : Library} {levels levels' : Nat} {base path : Path}
  {l : List Step} {paths : List Path}

theorem Explored.mono (h : Explored s library levels path) (hlevels : levels ≤ levels') :
    Explored s library levels' path := by
  induction h generalizing levels' with
  | intro hn h ih =>
    obtain ⟨more, rfl⟩ : ∃ k, levels' = k + 1 := ⟨levels' - 1, by omega⟩
    exact .intro hn fun step hstep r hr => ih step hstep r hr (by omega)

/-- A chain is no longer than the levels within which its templates can be read. -/
theorem Chain.length_le (h : Chain s library base l paths)
    (hexplored : ExploredSteps s library levels base l) : paths.length ≤ levels := by
  induction h generalizing levels with
  | last hstep hr =>
    cases hexplored _ hstep _ hr with
    | intro hn h => exact Nat.succ_le_succ (Nat.zero_le _)
  | cons hstep hr hn h ih =>
    cases hexplored _ hstep _ hr with
    | intro hn' h' =>
      obtain rfl := Except.ok.inj (hn.symm.trans hn')
      exact Nat.succ_le_succ (ih h')

/-- Each template of a chain can be read within the levels of the chain. -/
theorem Chain.explored (h : Chain s library base l paths)
    (hexplored : ExploredSteps s library levels base l) :
    ∀ path ∈ paths, Explored s library levels path := by
  induction h generalizing levels with
  | last hstep hr =>
    intro path hpath
    rw [List.mem_singleton.1 hpath]
    exact hexplored _ hstep _ hr
  | cons hstep hr hn h ih =>
    have hhead := hexplored _ hstep _ hr
    intro path hpath
    rcases List.mem_cons.1 hpath with rfl | hpath
    · exact hhead
    · cases hhead with
      | intro hn' h' =>
        obtain rfl := Except.ok.inj (hn.symm.trans hn')
        exact (ih h' path hpath).mono (Nat.le_succ _)

end Chains

/-! ### Chains that come back -/

section Cycles

variable {s : Settings} {fs : FileSystem} {levels levels' : Nat} {base path path' : Path}
  {l : List Step} {paths : List Path}

/-- References that are made in the directories of one path, however it is written, lead to one
path. -/
theorem components_reference (h : path.components = path'.components) (reference : String) :
    (path.directory.join reference).components = (path'.directory.join reference).components := by
  rw [Path.components_join, Path.components_join, Path.components_directory,
    Path.components_directory, h]

/-- The levels that a template needs do not depend on how its path is written. -/
theorem Explored.of_components (h : Explored s fs.library levels path)
    (h' : Explored s fs.library levels' path') (hcomponents : path.components = path'.components) :
    Explored s fs.library levels path' := by
  induction h generalizing levels' path' with
  | intro hn h ih =>
    cases h' with
    | intro hn' h' =>
      obtain rfl := fs.library_unique hcomponents hn hn'
      exact .intro hn' fun step hstep r hr =>
        ih step hstep r hr (h' step hstep r hr) (components_reference hcomponents r.path)

/-- No chain of references in a template comes back to it. -/
theorem Chain.components_ne {n : Node} (hn : fs.library path = .ok n)
    (h : Chain s fs.library path.directory (Template.ofNode n).steps paths)
    (hexplored : Explored s fs.library levels path) :
    ∀ path' ∈ paths, path'.components ≠ path.components := by
  classical
  -- Within as few levels as possible there is one less for the templates of the chain.
  have hexists : ∃ k, Explored s fs.library k path := ⟨levels, hexplored⟩
  have hfewest := Nat.find_spec hexists
  have hmin {k : Nat} (hk : Explored s fs.library k path) : Nat.find hexists ≤ k :=
    Nat.find_min' hexists hk
  intro path' hpath' hcomponents
  generalize Nat.find hexists = fewest at hfewest hmin
  cases hfewest with
  | @intro fewer _ n' hn' hsteps =>
    obtain rfl := Except.ok.inj (hn.symm.trans hn')
    have hfewer := (h.explored hsteps path' hpath').of_components hexplored hcomponents
    exact absurd (hmin hfewer) (Nat.not_succ_le_self fewer)

/-- No chain of references comes to one path twice, however it is written. -/
theorem Chain.nodup (h : Chain s fs.library base l paths)
    (hexplored : ExploredSteps s fs.library levels base l) : (paths.map Path.components).Nodup := by
  induction h generalizing levels with
  | last hstep hr => simp
  | cons hstep hr hn h ih =>
    have hhead := hexplored _ hstep _ hr
    rw [List.map_cons, List.nodup_cons]
    constructor
    · intro hmem
      obtain ⟨path', hpath', hcomponents⟩ := List.mem_map.1 hmem
      exact h.components_ne hn hhead path' hpath' hcomponents
    · cases hhead with
      | intro hn' h' =>
        obtain rfl := Except.ok.inj (hn.symm.trans hn')
        exact ih h'

end Cycles

/-! ### Expansions -/

section Runs

variable {s : Settings} {library : Library} {P : Act → Prop}

/-- A command is emitted, warned of, or passed over. -/
theorem everyAct_command (hnotice : ∀ message colour, P (.notice message colour))
    (hemit : ∀ c, P (.emit c)) (b : Bindings) (c : StepCommand) : EveryAct P (command s b c) := by
  rw [command]
  split
  · exact .act (hnotice _ _) (.done ())
  · split_ifs
    · exact .done ()
    · exact .act (hemit _) (.done ())

/-- What holds under allowed answers of the commands of steps, and of the templates to which they
refer, holds of the steps. -/
theorem under_stepsWith {allowed : Question → Except PromptError Response → Prop}
    {nested : Path → Bindings → Dialogue Unit} {scope : Scope} {l : List Step}
    (hcommand : ∀ step ∈ l, ∀ c, step.command = some c →
      Under allowed P (fun _ => True) (command s scope.bindings c))
    (hnested : ∀ step ∈ l, ∀ r, step.reference? s = some r → Under allowed P (fun _ => True)
      (nested (scope.base.join r.path) (referenceBindings s scope.bindings r))) :
    Under allowed P (fun _ => True) (stepsWith s nested scope l) := by
  induction l with
  | nil => exact .done trivial
  | cons step rest ih =>
    have htemplate : Under allowed P (fun _ => True)
        (step.template.elim (.done ()) (reference s nested scope)) := by
      rw [elim_template]
      cases hr : step.reference? s with
      | none => exact .done trivial
      | some r => exact hnested step List.mem_cons_self r hr
    have hown : Under allowed P (fun _ => True)
        (step.command.elim (.done ()) (command s scope.bindings)) := by
      cases hc : step.command with
      | none => exact .done trivial
      | some c => exact hcommand step List.mem_cons_self c hc
    exact htemplate.bind fun _ _ => hown.bind fun _ _ =>
      ih (fun step' hstep' => hcommand step' (.tail _ hstep')) fun step' hstep' =>
        hnested step' (.tail _ hstep')

theorem everyAct_stepsWith {nested : Path → Bindings → Dialogue Unit} {scope : Scope}
    {l : List Step} (hcommand : ∀ step ∈ l, ∀ c, step.command = some c →
      EveryAct P (command s scope.bindings c))
    (hnested : ∀ step ∈ l, ∀ r, step.reference? s = some r →
      ∀ b, EveryAct P (nested (scope.base.join r.path) b)) :
    EveryAct P (stepsWith s nested scope l) :=
  (under_stepsWith (fun step hstep c hc => (hcommand step hstep c hc).under _)
    fun step hstep r hr => (hnested step hstep r hr _).under _).everyAct

/-- A template is loaded for a call, and within the bound. -/
def LoadsCalled (s : Settings) (library : Library) (next : Nat → Nat) (base : Path) (depth : Nat)
    (l : List Step) : Act → Prop
  | .load path level =>
    Called s library next base depth l ⟨path, level⟩ ∧ level ≤ s.maxTemplateDepth
  | _ => True

variable {next : Nat → Nat} {base : Path} {depth : Nat} {l : List Step}

/-- Whatever is loaded in a template that is called for is called for. -/
theorem everyAct_templateFrom (hnext : CountsInWord next)
    (hmax : s.maxTemplateDepth < UInt64.size - 1) {levels level : Nat}
    (hlevels : levels = s.maxTemplateDepth + 1 - level) {path : Path}
    (hcalled : Called s library next base depth l ⟨path, level⟩) (b : Bindings) :
    EveryAct (LoadsCalled s library next base depth l)
      (templateFrom s library levels level path b) := by
  induction levels generalizing level path b with
  | zero => exact .fail _
  | succ levels ih =>
    have hlevel : level ≤ s.maxTemplateDepth := by omega
    rw [templateFrom_succ]
    refine .act ⟨hcalled, hlevel⟩ ?_
    cases hn : library path with
    | error e => exact .fail e
    | ok n =>
      rw [Dialogue.ofExcept, bind_done]
      refine .bind (everyAct_bindParameters _ _ b) fun b' => ?_
      refine everyAct_stepsWith
        (fun _ _ c _ => everyAct_command (fun _ _ => trivial) (fun _ => trivial) b' c)
        fun step hstep r hr b'' => ?_
      refine ih (by omega) (.nested hcalled ⟨hlevel, n, hn, step, hstep, r, hr, ?_⟩) b''
      rw [hnext level (by omega)]

theorem everyAct_steps (hnext : CountsInWord next) (hmax : s.maxTemplateDepth < UInt64.size - 1)
    {scope : Scope} (hdepth : scope.depth ≤ s.maxTemplateDepth) (l : List Step) :
    EveryAct (LoadsCalled s library next scope.base scope.depth l) (steps s library scope l) := by
  refine everyAct_stepsWith
    (fun _ _ c _ => everyAct_command (fun _ _ => trivial) (fun _ => trivial) scope.bindings c)
    fun step hstep r hr b => ?_
  refine everyAct_templateFrom hnext hmax rfl (.directly ⟨step, hstep, r, hr, ?_⟩) b
  rw [hnext scope.depth (by omega)]

/-- Steps come to their end only if each template that they refer to does. -/
theorem mayEnd_of_stepsWith {nested : Path → Bindings → Dialogue Unit} {scope : Scope}
    (h : MayEnd (stepsWith s nested scope l) ()) :
    ∀ step ∈ l, ∀ r, step.reference? s = some r →
      ∃ b, MayEnd (nested (scope.base.join r.path) b) () := by
  induction l with
  | nil => exact fun step hstep => nomatch hstep
  | cons step rest ih =>
    obtain ⟨u, htemplate, h⟩ := h.of_bind
    obtain ⟨v, -, hrest⟩ := h.of_bind
    intro step' hstep' r hr
    rcases List.mem_cons.1 hstep' with rfl | hstep'
    · rw [elim_template, hr] at htemplate
      exact ⟨_, htemplate⟩
    · exact ih hrest step' hstep' r hr

/-- An expansion of a template that comes to its end has read it and all templates beneath it,
whatever the values of its parameters were. -/
theorem explored_of_mayEnd {levels level : Nat} {path : Path} {b : Bindings}
    (h : MayEnd (templateFrom s library levels level path b) ()) :
    Explored s library levels path := by
  induction levels generalizing level path b with
  | zero => cases h
  | succ levels ih =>
    rw [templateFrom_succ] at h
    cases h with
    | act _ h =>
      obtain ⟨n, hn, h⟩ := h.of_bind
      obtain ⟨b', -, h⟩ := h.of_bind
      refine .intro hn.of_ofExcept fun step hstep r hr => ?_
      obtain ⟨b'', hnested⟩ := mayEnd_of_stepsWith h step hstep r hr
      exact ih hnested

theorem exploredSteps_of_mayEnd {scope : Scope} (h : MayEnd (steps s library scope l) ()) :
    ExploredSteps s library (s.maxTemplateDepth - scope.depth) scope.base l := by
  intro step hstep r hr
  obtain ⟨b, hnested⟩ := mayEnd_of_stepsWith h step hstep r hr
  have hlevels : s.maxTemplateDepth + 1 - (scope.depth + 1) = s.maxTemplateDepth - scope.depth := by
    omega
  rw [template, hlevels] at hnested
  exact explored_of_mayEnd hnested

/-- Jobs come to their end only if the steps of each do. -/
theorem mayEnd_of_jobs {js : List Job} (h : MayEnd (jobs s library base js) ()) {j : Job}
    (hj : j ∈ js) (hdeclares : j.declaresSteps) :
    MayEnd (steps s library (.root base) j.steps) () := by
  induction js with
  | nil => cases hj
  | cons k js ih =>
    rw [jobs_cons] at h
    obtain ⟨u, hfirst, hrest⟩ := h.of_bind
    rcases List.mem_cons.1 hj with rfl | hj
    · rw [if_pos hdeclares] at hfirst
      obtain ⟨v, -, hsteps⟩ := hfirst.of_bind
      exact hsteps
    · exact ih hrest hj

end Runs

/-! ### The bound -/

/-- The recursion of templates that begins with steps ends at the bound, for a way of counting: it
has one solution, which is the expansion, it makes no endless nest of calls, and nothing is counted
further than one past the bound. -/
structure EndsAtBound (s : Settings) (library : Library) (next : Nat → Nat) (scope : Scope)
    (l : List Step) : Prop where
  solves : Solves s library next (template s library)
  unique : ∀ expand, Solves s library next expand →
    stepsWith s (fun path b => expand path b (next scope.depth)) scope l = steps s library scope l
  endsCalls : ∀ call, Acc (fun callee caller => LeadsTo s library next caller callee) call
  counts : ∀ call, Called s library next scope.base scope.depth l call →
    scope.depth < call.depth ∧ call.depth ≤ s.maxTemplateDepth + 1

theorem endsAtBound {s : Settings} {library : Library} {next : Nat → Nat} {scope : Scope}
    (hnext : CountsInWord next) (hmax : s.maxTemplateDepth < UInt64.size - 1)
    (hdepth : scope.depth ≤ s.maxTemplateDepth) (l : List Step) :
    EndsAtBound s library next scope l where
  solves := solves_template hnext hmax
  unique expand hsolves := by
    have hnested : (fun path b => expand path b (next scope.depth)) =
        fun path b => template s library path b (scope.depth + 1) := by
      funext path b
      rw [hnext scope.depth (by omega)]
      exact eq_template_of_solves hnext hmax hsolves (by omega) path b
    rw [hnested, steps]
  endsCalls := acc_leadsTo hnext hmax
  counts _ hcalled := hcalled.depth_le hnext hmax hdepth

/-- The templates to which steps lead fit into what the bound leaves, and none of them is come back
to. -/
def NestsWithin (s : Settings) (library : Library) (base : Path) (l : List Step)
    (levels : Nat) : Prop :=
  ∀ paths, Chain s library base l paths →
    paths.length ≤ levels ∧ (paths.map Path.components).Nodup

theorem ExploredSteps.nestsWithin {s : Settings} {fs : FileSystem} {levels : Nat} {base : Path}
    {l : List Step} (h : ExploredSteps s fs.library levels base l) :
    NestsWithin s fs.library base l levels :=
  fun _ hchain => ⟨hchain.length_le h, hchain.nodup h⟩

end Expansion

open Expansion

variable {σ : Type} [Prompting σ]

/-- If a script is built, the templates below each job nest within the bound. -/
theorem nestsWithin_of_buildScript {s : Settings} {fs : FileSystem} {entry : Path} {p : Pipeline}
    {prompter : σ} {script : Script} (hload : Pipeline.load fs.library entry = .ok p)
    (hbuilt : (buildScript s fs.library entry prompter).result = .ok (some script)) {j : Job}
    (hj : j ∈ p.jobs) (hdeclares : j.declaresSteps) :
    NestsWithin s fs.library entry.directory j.steps s.maxTemplateDepth := by
  obtain ⟨-, -, -, hquit, hfailed⟩ := buildScript_of_load (s := s) hload prompter
  rw [hbuilt] at hquit hfailed
  cases houtcome :
      ((expandPipeline s fs.library p entry.directory).run prompter).outcome with
  | error e => cases hfailed e houtcome
  | ok flow =>
    cases flow with
    | terminated => cases hquit houtcome
    | continued session =>
      rw [expandPipeline_eq_select] at houtcome
      obtain ⟨u, hjobs⟩ := Selection.mayEnd_of_select (Dialogue.MayEnd.of_run houtcome)
      exact (exploredSteps_of_mayEnd (mayEnd_of_jobs hjobs hj hdeclares)).nestsWithin

/-- The bound on nesting catches every cycle of templates. The expansion of steps ends, whatever
way of counting is used that is right as far as a machine word goes, and no template is loaded
beyond the bound. If the run of the expansion goes on to its end, the templates to which the steps
lead fit into the rest of the bound, and no chain of references comes to one path twice. So a
pipeline below which a chain does, or is longer than the bound, has no script. -/
theorem expansion_within_bound (s : Settings) (fs : FileSystem) (scope : Scope) (l : List Step)
    (session : Session) (prompter : σ) (hmax : s.maxTemplateDepth < UInt64.size - 1)
    (hdepth : scope.depth ≤ s.maxTemplateDepth) :
    let r := (Expander.processSteps s fs.library l scope session).run prompter
    (∀ next, CountsInWord next → EndsAtBound s fs.library next scope l ∧
        ∀ path depth, .acted (.load path depth) ∈ r.events →
          Called s fs.library next scope.base scope.depth l ⟨path, depth⟩ ∧
            depth ≤ s.maxTemplateDepth) ∧
      (∀ session', r.outcome = .ok (.continued session') →
        NestsWithin s fs.library scope.base l (s.maxTemplateDepth - scope.depth)) ∧
      ∀ entry p, Pipeline.load fs.library entry = .ok p → ∀ j ∈ p.jobs, j.declaresSteps →
        ∀ paths, Chain s fs.library entry.directory j.steps paths →
          s.maxTemplateDepth < paths.length ∨ ¬(paths.map Path.components).Nodup →
            ∀ script, (buildScript s fs.library entry prompter).result ≠ .ok (some script) := by
  intro r
  have hselect := Expander.processSteps_eq s fs.library l scope session
  refine ⟨fun next hnext => ⟨endsAtBound hnext hmax hdepth l, fun path depth hload => ?_⟩,
    fun session' hgoes => ?_, ?_⟩
  · have hacts : Dialogue.EveryAct (LoadsCalled s fs.library next scope.base scope.depth l)
        (steps s fs.library scope l) := everyAct_steps hnext hmax hdepth l
    have hselected := Selection.everyAct_select (fun _ _ => trivial) hacts s.interactive session
    rw [← hselect] at hselected
    exact hselected.run prompter hload
  · have hends := Dialogue.MayEnd.of_run hgoes
    rw [hselect] at hends
    obtain ⟨u, hsteps⟩ := Selection.mayEnd_of_select hends
    exact (exploredSteps_of_mayEnd hsteps).nestsWithin
  · intro entry p hload j hj hdeclares paths hchain hbad script hbuilt
    obtain ⟨hlength, hnodup⟩ :=
      nestsWithin_of_buildScript hload hbuilt hj hdeclares paths hchain
    rcases hbad with hlong | hreturns
    · omega
    · exact hreturns hnodup

/-- A pipeline whose template refers to itself, by another spelling of its path. -/
def returningFiles : FileSystem :=
  .ofFiles [(["p"], "jobs:\n- steps:\n  - template: t\n"), (["t"], "steps:\n- template: ./t\n")]

/-- The job of the pipeline in `returningFiles`. -/
def returningJob : Job :=
  ⟨unnamedJob, [⟨some ⟨"t", []⟩, none⟩], true⟩

/-- The steps of `forwardingPipeline` nest two deep and go on to their end; those of
`returningFiles` come back to their template, and nothing is built. -/
theorem expansion_within_bound_returning :
    NestsWithin {} forwardingFiles.library ⟨"/"⟩ [⟨some ⟨"t/a", [("x", "web")]⟩, none⟩] 32 ∧
      Chain {} returningFiles.library ⟨"/"⟩ returningJob.steps [⟨"/t"⟩, ⟨"/./t"⟩] ∧
      ∀ script, (buildScript {} returningFiles.library ⟨"/p"⟩ (⟨""⟩ : Unattended)).result ≠
        .ok (some script) := by
  have hforwards : NestsWithin {} forwardingFiles.library ⟨"/"⟩
      [⟨some ⟨"t/a", [("x", "web")]⟩, none⟩] 32 :=
    (expansion_within_bound {} forwardingFiles (.root ⟨"/"⟩) _ .undecided (⟨""⟩ : Unattended)
      (by decide) (by decide)).2.1 .undecided (by decide +kernel)
  obtain ⟨n, hn, ht⟩ := FileSystem.exists_node
    (show (returningFiles.library ⟨"/t"⟩).map Template.ofNode =
      .ok ⟨[], [⟨some ⟨"./t", []⟩, none⟩]⟩ by decide +kernel)
  have hsteps : (⟨some ⟨"./t", []⟩, none⟩ : Step) ∈ (Template.ofNode n).steps := by
    rw [ht]
    exact List.mem_cons_self
  have hchain : Chain {} returningFiles.library ⟨"/"⟩ returningJob.steps [⟨"/t"⟩, ⟨"/./t"⟩] := by
    have hfirst : Path.join ⟨"/"⟩ "t" = ⟨"/t"⟩ := by decide +kernel
    have hsecond : (Path.directory ⟨"/t"⟩).join "./t" = ⟨"/./t"⟩ := by decide +kernel
    have hleads : (⟨some ⟨"t", []⟩, none⟩ : Step).reference? {} = some ⟨"t", []⟩ := rfl
    have hreturns : (⟨some ⟨"./t", []⟩, none⟩ : Step).reference? {} = some ⟨"./t", []⟩ := rfl
    rw [← hfirst] at hn
    rw [← hsecond, ← hfirst]
    exact .cons List.mem_cons_self hleads hn (.last hsteps hreturns)
  refine ⟨hforwards, hchain, ?_⟩
  exact (expansion_within_bound {} returningFiles (.root ⟨"/"⟩) [] .undecided
    (⟨""⟩ : Unattended) (by decide) (by decide)).2.2 ⟨"/p"⟩ ⟨[returningJob]⟩ (by decide +kernel)
    returningJob List.mem_cons_self rfl _ hchain (.inr (by decide +kernel))

end PipelineScript
