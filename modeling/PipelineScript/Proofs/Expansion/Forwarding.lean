import Mathlib.Tactic.Common
import PipelineScript.Proofs.Bindings
import PipelineScript.Proofs.Build
import PipelineScript.Proofs.Dialogue.Lead
import PipelineScript.Proofs.Expansion.Recursion
import PipelineScript.Proofs.FileSystem.Reading
import PipelineScript.Proofs.Placeholder

/-!
# Forwarded values

A template hands the value of its parameter on to another one by a reference whose value is the
placeholder of the parameter. Each reference works its values out anew, in the scope around it, but
a value that is put in for a placeholder is not looked at. So the value of a job's reference goes
through any number of templates as it was when the job's own placeholders had been filled in, and it
is the command at the end of the chain, even if it reads like a placeholder on the way.
-/

namespace PipelineScript

open Text (isWhite)

/-! ### Names and placeholders -/

/-- The name can stand in a placeholder, and it does not begin a placeholder itself. -/
structure IsParameterName (name : String) : Prop where
  nonempty : name.toList ≠ []
  nameChars : name.toList.all isNameChar = true
  dollar : '$' ∉ name.toList

/-- The text is the placeholder of a parameter, with any white space around its name. -/
def IsPlaceholderOf (name text : String) : Prop :=
  ∃ before behind, (∀ c ∈ before, isWhite c = true) ∧ (∀ c ∈ behind, isWhite c = true) ∧
    text = String.ofList (Placeholder.written ⟨before, name.toList, behind⟩)

/-- The placeholder of a parameter becomes its value, whatever the value is. -/
theorem sanitize_of_isPlaceholderOf {name text value : String} {b : Bindings}
    (hname : IsParameterName name) (htext : IsPlaceholderOf name text)
    (hvalue : b.lookup name = some value) (directory : String) :
    sanitize directory b text = value := by
  obtain ⟨before, behind, hbefore, hbehind, rfl⟩ := htext
  have hproper : Placeholder.Proper ⟨before, name.toList, behind⟩ :=
    ⟨hbefore, hname.nonempty, List.all_eq_true.1 hname.nameChars, hbehind⟩
  rw [← String.ofList_toList (s := name)] at hvalue
  exact hproper.sanitize_written hname.dollar hvalue directory

/-! ### Values of references -/

/-- The reference gives a parameter this value; of several entries with a name, the last counts. -/
def TemplateReference.Supplies (r : TemplateReference) (name value : String) : Prop :=
  (Bindings.ofEntries r.parameters).lookup name = some value

/-- The step without its command. -/
def Step.templateOnly (step : Step) : Step :=
  ⟨step.template, none⟩

namespace Expansion

open Dialogue

theorem lookup_referenceBindings {s : Settings} {r : TemplateReference} {name value : String}
    (h : r.Supplies name value) (b : Bindings) :
    (referenceBindings s b r).lookup name = some (sanitize s.workingDirectory b value) := by
  rw [referenceBindings, ← Bindings.map_ofEntries, Bindings.lookup_map, h]
  rfl

/-! ### Chains -/

/-- A place for a forwarded value: a step of a template whose command is kept, and whose script is
the placeholder of the parameter of the template. -/
structure Destination (s : Settings) where
  path : Path
  name : String
  /-- The steps of the template in front of the one with the command. -/
  before : List Step
  step : Step
  after : List Step
  command : StepCommand
  command_eq : step.command = some command
  keeps : Flattening.keeps s command = true
  script : IsPlaceholderOf name command.script

/-- The parameter of a template is forwarded to a destination, through the templates at `paths`
behind it: each template declares no other parameter than the one that is forwarded, and each but
the last has a single step, whose reference gives the parameter of the next template the
placeholder of its own. -/
inductive Forwards (s : Settings) (library : Library) (d : Destination s) :
    Path → List Path → String → Prop
  | last {n : Node} (hname : IsParameterName d.name) (hn : library d.path = .ok n)
      (hdeclares : ∀ declared ∈ (Template.ofNode n).parameters, declared = d.name)
      (hsteps : (Template.ofNode n).steps = d.before ++ d.step :: d.after) :
      Forwards s library d d.path [] d.name
  | link {path : Path} {name : String} {n : Node} {step : Step} {r : TemplateReference}
      {next text : String} {paths : List Path} (hname : IsParameterName name)
      (hn : library path = .ok n)
      (hdeclares : ∀ declared ∈ (Template.ofNode n).parameters, declared = name)
      (hsteps : (Template.ofNode n).steps = [step]) (hr : step.reference? s = some r)
      (hsupplies : r.Supplies next text) (htext : IsPlaceholderOf name text)
      (h : Forwards s library d (path.directory.join r.path) paths next) :
      Forwards s library d path (path.directory.join r.path :: paths) name

/-- Templates are loaded, each within the one before. -/
def loads : Nat → List Path → Dialogue Unit
  | _, [] => .done ()
  | depth, path :: paths => .act (.load path depth) fun _ => loads (depth + 1) paths

theorem performs_loads (depth : Nat) (paths : List Path) :
    ∃ acts, Performs (loads depth paths) acts (.ok ()) := by
  induction paths generalizing depth with
  | nil => exact ⟨[], .done ()⟩
  | cons path paths ih =>
    obtain ⟨acts, hacts⟩ := ih (depth + 1)
    exact ⟨_, .act _ hacts⟩

/-- The expansion of what stands in front of the command of a destination, in its template. -/
def Destination.lead {s : Settings} (d : Destination s) (library : Library) (b : Bindings)
    (depth : Nat) : Dialogue Unit :=
  steps s library ⟨d.path.directory, b, depth⟩ (d.before ++ [d.step.templateOnly])

/-- Nothing is expanded in front of the only command of a template. -/
theorem Destination.performs_lead {s : Settings} (d : Destination s) (hbefore : d.before = [])
    (htemplate : d.step.template = none) (library : Library) (b : Bindings) (depth : Nat) :
    Performs (d.lead library b depth) [] (.ok ()) := by
  rw [Destination.lead, hbefore, Step.templateOnly, htemplate]
  exact .done ()

section Leads

variable {s : Settings} {library : Library} {a : Act}

/-- Steps come to the command of one of them by way of the steps before it and its template. -/
theorem comesTo_command {scope : Scope} {step : Step} {c : StepCommand}
    (hc : step.command = some c) (hcommand : command s scope.bindings c = .perform a)
    (before after : List Step) :
    ComesTo a (steps s library scope (before ++ [step.templateOnly]))
      (steps s library scope (before ++ step :: after)) := by
  rw [steps, steps]
  induction before with
  | nil =>
    refine .after _ fun _ => ?_
    rw [hc, Option.elim_some, hcommand]
    exact .done _
  | cons first before ih => exact .after _ fun _ => .after _ fun _ => ih

/-- Steps come to what the template of one of them comes to, by way of the steps before it. -/
theorem comesTo_template (scope : Scope) {step : Step} {r : TemplateReference}
    (hr : step.reference? s = some r) {lead : Dialogue Unit}
    (h : ComesTo a lead (template s library (scope.base.join r.path)
      (referenceBindings s scope.bindings r) (scope.depth + 1))) (before after : List Step) :
    ComesTo a ((steps s library scope before).bind fun _ => lead)
      (steps s library scope (before ++ step :: after)) := by
  rw [steps, steps]
  induction before with
  | nil =>
    rw [List.nil_append, stepsWith, stepsWith, bind_done, elim_template, hr]
    exact h.bind _
  | cons first before ih =>
    simp only [List.cons_append, stepsWith, bind_eq_bind, bind_assoc]
    exact .after _ fun _ => .after _ fun _ => ih

/-- Jobs come to what the steps of one of them come to, by way of the jobs before it. -/
theorem comesTo_jobs {base : Path} {j : Job} (hdeclares : j.declaresSteps) {lead : Dialogue Unit}
    (h : ComesTo a lead (steps s library (.root base) j.steps)) (before after : List Job) :
    ComesTo a ((jobs s library base before).bind fun _ =>
        (Dialogue.perform (.job j.name)).bind fun _ => lead)
      (jobs s library base (before ++ j :: after)) := by
  induction before with
  | nil =>
    rw [List.nil_append, jobs_cons, if_pos hdeclares]
    exact .bind (.act _ h) _
  | cons first before ih =>
    rw [List.cons_append, jobs_cons, jobs_cons, bind_assoc]
    exact .after _ fun _ => ih

/-- A template whose one parameter has a value asks for nothing before its steps. -/
theorem template_of_declares {path : Path} {n : Node} {b : Bindings} {name value : String}
    {depth : Nat} (hdepth : depth ≤ s.maxTemplateDepth) (hn : library path = .ok n)
    (hdeclares : ∀ declared ∈ (Template.ofNode n).parameters, declared = name)
    (hvalue : b.lookup name = some value) :
    template s library path b depth = .act (.load path depth) fun _ =>
      steps s library ⟨path.directory, b, depth⟩ (Template.ofNode n).steps := by
  have hsupplied : ∀ declared ∈ (Template.ofNode n).parameters, (b.lookup declared).isSome :=
    fun declared h => by rw [hdeclares declared h, hvalue, Option.isSome_some]
  rw [template_of_le hdepth, hn, Dialogue.ofExcept, bind_done,
    bindParameters_of_supplied _ hsupplied, bind_done]

/-- A template comes to the command of the destination, which is the value of its parameter. -/
theorem comesTo_of_forwards {d : Destination s} {path : Path} {paths : List Path} {name : String}
    (h : Forwards s library d path paths name) {depth : Nat}
    (hdepth : depth + paths.length ≤ s.maxTemplateDepth) {b : Bindings} {value : String}
    (hvalue : b.lookup name = some value) :
    ∃ b', b'.lookup d.name = some value ∧
      ComesTo (.emit ⟨d.command.label, value⟩)
        ((loads depth (path :: paths)).bind fun _ => d.lead library b' (depth + paths.length))
        (template s library path b depth) := by
  induction h generalizing depth b with
  | last hname hn hdeclares hsteps =>
    simp only [List.length_nil, Nat.add_zero] at hdepth ⊢
    rw [template_of_declares hdepth hn hdeclares hvalue, hsteps]
    refine ⟨b, hvalue, .act _ (comesTo_command d.command_eq ?_ _ _)⟩
    rw [command_of_keeps d.keeps, sanitize_of_isPlaceholderOf hname d.script hvalue]
  | @link path name n step r next text paths hname hn hdeclares hsteps hr hsupplies htext h ih =>
    rw [List.length_cons] at hdepth
    have hnext : (referenceBindings s b r).lookup next = some value := by
      rw [lookup_referenceBindings hsupplies, sanitize_of_isPlaceholderOf hname htext hvalue]
    have hdeeper : depth + 1 + paths.length = depth + (paths.length + 1) := by omega
    obtain ⟨b', hb', hcomes⟩ := ih (hdeeper ▸ hdepth) hnext
    rw [hdeeper] at hcomes
    have hhere : depth ≤ s.maxTemplateDepth := Nat.le_trans (Nat.le_add_right _ _) hdepth
    rw [template_of_declares hhere hn hdeclares hvalue, hsteps]
    exact ⟨b', hb', .act _ (comesTo_template ⟨path.directory, b, depth⟩ hr hcomes [] [])⟩

end Leads

end Expansion

open Expansion

variable {σ : Type} [Prompting σ]

/-- A command to which the expansion of a pipeline comes is one of the commands of the script. -/
theorem mem_commands_of_comesTo {s : Settings} {fs : FileSystem} {entry : Path} {p : Pipeline}
    {prompter : σ} {c : Command} {script : Script} {lead : Dialogue Unit}
    (hload : Pipeline.load fs.library entry = .ok p) (hinteractive : s.interactive = false)
    (hcomes : Dialogue.ComesTo (.emit c) lead (pipeline s fs.library p entry.directory))
    (hscript : (buildScript s fs.library entry prompter).result = .ok (some script)) :
    c ∈ script.commands := by
  rw [buildScript_of_not_interactive hload hinteractive] at hscript
  have hemitted {u : Unit} := hcomes.mem_events (s := prompter) (x := u)
  generalize (pipeline s fs.library p entry.directory).run prompter = r at hemitted hscript
  obtain ⟨outcome, events, after⟩ := r
  cases outcome with
  | error e => cases hscript
  | ok u =>
    obtain rfl := Option.some.inj (Except.ok.inj hscript)
    exact List.mem_filterMap.2 ⟨.command c, List.mem_filterMap.2 ⟨_, hemitted rfl, rfl⟩, rfl⟩

/-- A value that is forwarded through a chain of templates arrives as it is. A run that is not
interactive either fails before it comes to the command at the end of the chain, or it emits there
the value of the job's reference in which the job's own placeholders were filled in, and nothing
else. What stands in front of the command is the expansion of the jobs and steps before it and the
loads of the chain, so the chain itself never fails. -/
theorem buildScript_forwards (s : Settings) (fs : FileSystem) (entry : Path) (prompter : σ)
    {p : Pipeline} (hload : Pipeline.load fs.library entry = .ok p)
    (hinteractive : s.interactive = false) {js js' : List Job} {j : Job}
    (hjobs : p.jobs = js ++ j :: js') (hdeclares : j.declaresSteps = true) {l l' : List Step}
    {step : Step} (hsteps : j.steps = l ++ step :: l') {r : TemplateReference}
    (hr : step.reference? s = some r) {name value : String} (hsupplies : r.Supplies name value)
    {d : Destination s} {paths : List Path}
    (hforwards : Forwards s fs.library d (entry.directory.join r.path) paths name)
    (hdepth : paths.length + 1 ≤ s.maxTemplateDepth) :
    let built := buildScript s fs.library entry prompter
    let arrived : Command := ⟨d.command.label, sanitize s.workingDirectory [] value⟩
    ∃ b, b.lookup d.name = some arrived.text ∧
      let lead := (jobs s fs.library entry.directory js).bind fun _ =>
        (Dialogue.perform (.job j.name)).bind fun _ =>
          (steps s fs.library (.root entry.directory) l).bind fun _ =>
            (loads 1 (entry.directory.join r.path :: paths)).bind fun _ =>
              d.lead fs.library b (1 + paths.length)
      let ahead := lead.run prompter
      (∀ e, ahead.outcome = .error e → built.result = .error e) ∧
        (ahead.outcome = .ok () →
          ∃ later, built.events = ahead.events ++ .acted (.emit arrived) :: later) ∧
        (js = [] → l = [] → d.before = [] → d.step.template = none → ahead.outcome = .ok ()) ∧
        ∀ script, built.result = .ok (some script) → arrived ∈ script.commands := by
  intro built arrived
  have hvalue : (referenceBindings s [] r).lookup name = some arrived.text :=
    lookup_referenceBindings hsupplies []
  obtain ⟨b, hb, hcomes⟩ := comesTo_of_forwards hforwards (Nat.add_comm _ 1 ▸ hdepth) hvalue
  refine ⟨b, hb, ?_⟩
  intro lead ahead
  have hpipeline : Dialogue.ComesTo (.emit arrived) lead
      (Expansion.pipeline s fs.library p entry.directory) := by
    rw [Expansion.pipeline, hjobs]
    refine comesTo_jobs hdeclares ?_ js js'
    rw [hsteps]
    exact comesTo_template (.root entry.directory) hr hcomes l l'
  have hbuilt := buildScript_of_not_interactive hload hinteractive prompter
  obtain ⟨hfails, hgoes⟩ := hpipeline.run prompter
  refine ⟨fun e he => ?_, fun hok => ?_, fun hjs hl hbefore htemplate => ?_, fun script h => ?_⟩
  · rw [show built = _ from hbuilt]
    simp only [hfails e he]
    rfl
  · rw [show built = _ from hbuilt]
    exact hgoes hok
  · obtain ⟨acts, hloads⟩ := performs_loads 1 (entry.directory.join r.path :: paths)
    have hlast := d.performs_lead hbefore htemplate fs.library b (1 + paths.length)
    have hlead : lead.Performs (.job j.name :: (acts ++ [])) (.ok ()) := by
      simp only [lead, hjs, hl]
      exact .act _ (hloads.bind hlast)
    exact (hlead.run prompter).1
  · exact mem_commands_of_comesTo hload hinteractive hpipeline h

/-- A pipeline that hands on a value which names the parameter of the inner template. -/
def handingOnFiles : FileSystem :=
  .ofFiles
    [(["p"], "jobs:\n- steps:\n  - template: t/a\n    parameters:\n" ++
      "      x: cd $(System.DefaultWorkingDirectory) $\x7b\x7bparameters.y\x7d\x7d\n"),
     (["t", "a"], "parameters: [x]\nsteps:\n- template: b\n  parameters:\n" ++
      "    y: $\x7b\x7b parameters.x \x7d\x7d\n"),
     (["t", "b"], "parameters: [y]\nsteps:\n- script: $\x7b\x7bparameters.y\x7d\x7d\n")]

/-- The settings of a run in a directory of its own. -/
def repositorySettings : Settings :=
  { workingDirectory := "/repo" }

/-- The command of the inner template in `handingOnFiles`. -/
def handingOnDestination : Destination repositorySettings where
  path := ⟨"/t/b"⟩
  name := "y"
  before := []
  step := ⟨none, some ⟨none, none, "$\x7b\x7bparameters.y\x7d\x7d"⟩⟩
  after := []
  command := ⟨none, none, "$\x7b\x7bparameters.y\x7d\x7d"⟩
  command_eq := rfl
  keeps := by decide
  script := ⟨[], [], by simp, by simp, by decide⟩

/-- The reference of the job in `handingOnFiles`. -/
def handingOnReference : TemplateReference :=
  ⟨"t/a", [("x", "cd $(System.DefaultWorkingDirectory) $\x7b\x7bparameters.y\x7d\x7d")]⟩

/-- The reference of the outer template in `handingOnFiles`. -/
def handingOnNested : TemplateReference :=
  ⟨"b", [("y", "$\x7b\x7b parameters.x \x7d\x7d")]⟩

theorem forwards_handingOnFiles :
    Forwards repositorySettings handingOnFiles.library handingOnDestination ⟨"/t/a"⟩ [⟨"/t/b"⟩]
      "x" := by
  obtain ⟨inner, hinner, hb⟩ := FileSystem.exists_node
    (show (handingOnFiles.library ⟨"/t/b"⟩).map Template.ofNode =
      .ok ⟨["y"], [handingOnDestination.step]⟩ by decide +kernel)
  obtain ⟨outer, houter, ha⟩ := FileSystem.exists_node
    (show (handingOnFiles.library ⟨"/t/a"⟩).map Template.ofNode =
      .ok ⟨["x"], [⟨some handingOnNested, none⟩]⟩ by decide +kernel)
  have hlast : Forwards repositorySettings handingOnFiles.library handingOnDestination
      ⟨"/t/b"⟩ [] "y" := by
    refine .last ⟨by decide, by decide, by decide⟩ hinner ?_ (by rw [hb]; rfl)
    rw [hb]
    exact fun declared h => List.mem_singleton.1 h
  have hname : IsParameterName "x" := ⟨by decide, by decide, by decide⟩
  have hsupplies : handingOnNested.Supplies "y" "$\x7b\x7b parameters.x \x7d\x7d" := rfl
  have htext : IsPlaceholderOf "x" "$\x7b\x7b parameters.x \x7d\x7d" :=
    ⟨[' '], [' '], by simp [isWhite], by simp [isWhite], by decide⟩
  have hpath : (Path.directory ⟨"/t/a"⟩).join "b" = ⟨"/t/b"⟩ := by decide +kernel
  rw [← hpath] at hlast ⊢
  refine .link hname houter ?_ (by rw [ha]) rfl hsupplies htext hlast
  rw [ha]
  exact fun declared h => List.mem_singleton.1 h

/-- The working directory is put in where the value is written, and the placeholder in the value is
left alone, though the parameter that it names has a value further on. -/
theorem buildScript_forwards_placeholder :
    let p : Pipeline := ⟨[⟨unnamedJob, [⟨some handingOnReference, none⟩], true⟩]⟩
    let built := buildScript repositorySettings handingOnFiles.library ⟨"/p"⟩ (⟨""⟩ : Unattended)
    let arrived : Command := ⟨unnamedCommand, "cd /repo $\x7b\x7bparameters.y\x7d\x7d"⟩
    Pipeline.load handingOnFiles.library ⟨"/p"⟩ = .ok p ∧
      ∃ earlier later, built.events = earlier ++ .acted (.emit arrived) :: later := by
  intro p built arrived
  have hload : Pipeline.load handingOnFiles.library ⟨"/p"⟩ = .ok p := by decide +kernel
  have hsupplies : handingOnReference.Supplies "x"
      "cd $(System.DefaultWorkingDirectory) $\x7b\x7bparameters.y\x7d\x7d" := rfl
  have hpath : (Path.directory ⟨"/p"⟩).join "t/a" = ⟨"/t/a"⟩ := by decide +kernel
  have hforwards := forwards_handingOnFiles
  rw [← hpath] at hforwards
  obtain ⟨b, -, -, hgoes, hfree, -⟩ := buildScript_forwards repositorySettings handingOnFiles
    ⟨"/p"⟩ (⟨""⟩ : Unattended) hload rfl (List.nil_append _).symm rfl (List.nil_append _).symm rfl
    hsupplies hforwards (by decide)
  have harrived : (⟨handingOnDestination.command.label, sanitize "/repo" []
      "cd $(System.DefaultWorkingDirectory) $\x7b\x7bparameters.y\x7d\x7d"⟩ : Command) =
        arrived := by
    decide +kernel
  obtain ⟨later, hlater⟩ := hgoes (hfree rfl rfl rfl rfl)
  refine ⟨hload, ?_⟩
  rw [← harrived]
  exact ⟨_, later, hlater⟩

end PipelineScript
