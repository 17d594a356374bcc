import Mathlib.Tactic.Common
import PipelineScript.Proofs.Build
import PipelineScript.Proofs.Dialogue.Performance
import PipelineScript.Proofs.Expansion.Recursion
import PipelineScript.Proofs.Selection.Offer

/-!
# The order in which templates are loaded

Which templates an expansion loads, and in which order, is said by the files and by the templates
that are left out. Nothing else that a run goes by makes a difference: neither the values of
parameters nor the answers, nor what is done with the commands. A run that builds a script goes the
whole way, and every other run breaks off on the same way.
-/

namespace PipelineScript

namespace Dialogue

variable {α β σ : Type} {d : Dialogue α} {f : α → Dialogue β} {paths paths' : List Path}

/-- The templates that are loaded in events, in order and each as often as it is loaded. -/
def loads (events : List Event) : List Path :=
  events.filterMap Event.loaded?

/-- Whatever is answered, the dialogue loads these templates in this order, and it breaks off early
only with a failure or with a result that gives up. -/
inductive LoadsAlong (givesUp : α → Prop) : Dialogue α → List Path → Prop
  | done (a : α) : LoadsAlong givesUp (.done a) []
  | givenUp {a : α} (ha : givesUp a) (paths : List Path) : LoadsAlong givesUp (.done a) paths
  | fail (e : GenerationError) (paths : List Path) : LoadsAlong givesUp (.fail e) paths
  | load (path : Path) (depth : Nat) {next : Unit → Dialogue α} {paths : List Path}
      (h : LoadsAlong givesUp (next ()) paths) :
      LoadsAlong givesUp (.act (.load path depth) next) (path :: paths)
  | act {a : Act} {next : Unit → Dialogue α} {paths : List Path}
      (ha : (Event.acted a).loaded? = none) (h : LoadsAlong givesUp (next ()) paths) :
      LoadsAlong givesUp (.act a next) paths
  | ask (q : Question) {next : Except PromptError Response → Dialogue α} {paths : List Path}
      (h : ∀ r, LoadsAlong givesUp (next r) paths) : LoadsAlong givesUp (.ask q next) paths

/-- The dialogue loads these templates in this order, and it breaks off only with a failure. -/
abbrev LoadsAll (d : Dialogue α) (paths : List Path) : Prop :=
  LoadsAlong (fun _ => False) d paths

namespace LoadsAlong

theorem bind {givesUp : β → Prop} (h : LoadsAll d paths)
    (hf : ∀ a, LoadsAlong givesUp (f a) paths') :
    LoadsAlong givesUp (d.bind f) (paths ++ paths') := by
  induction h with
  | done a => exact hf a
  | givenUp ha paths => exact ha.elim
  | fail e paths => exact .fail e _
  | load path depth h ih => exact .load path depth ih
  | act ha h ih => exact .act ha ih
  | ask q h ih => exact .ask q ih

/-- A run loads its templates in this order until it breaks off, and all of them if it ends with a
result that does not give up. -/
theorem run [Prompting σ] {givesUp : α → Prop} (h : LoadsAlong givesUp d paths) (s : σ) :
    loads (d.run s).events <+: paths ∧
      ∀ a, (d.run s).outcome = .ok a → ¬givesUp a → loads (d.run s).events = paths := by
  induction h generalizing s with
  | done a => exact ⟨List.prefix_rfl, fun _ _ _ => rfl⟩
  | givenUp ha paths =>
    refine ⟨List.nil_prefix, fun a hend hgoes => ?_⟩
    cases hend
    exact absurd ha hgoes
  | fail e paths => exact ⟨List.nil_prefix, fun a hend => nomatch hend⟩
  | load path depth h ih =>
    obtain ⟨hbegins, hall⟩ := ih (afterAct s (.load path depth))
    refine ⟨(List.prefix_cons_inj path).2 hbegins, fun a hend hgoes => ?_⟩
    exact congrArg (path :: ·) (hall a hend hgoes)
  | @act a next paths ha h ih =>
    have hevents : loads ((Dialogue.act a next).run s).events =
        loads ((next ()).run (afterAct s a)).events := List.filterMap_cons_none ha
    rw [hevents]
    exact ih (afterAct s a)
  | ask q h ih => exact ih _ _

end LoadsAlong

end Dialogue

namespace Selection

open Dialogue

variable {α : Type} {d : Dialogue α} {paths : List Path}

/-- A selection loads what the dialogue loads, unless it is quit. -/
theorem loadsAlong_select (h : LoadsAll d paths) (interactive : Bool) (s : Session) :
    LoadsAlong (· = Flow.terminated) (select interactive s d) paths := by
  induction h generalizing s with
  | done a => exact .done _
  | givenUp ha paths => exact ha.elim
  | fail e paths => exact .fail e paths
  | load path depth h ih => exact .load path depth (ih s)
  | ask q h ih => exact .ask q fun r => ih r s
  | @act a next paths ha h ih =>
    cases a with
    | load path depth => cases ha
    | job name => exact .act rfl (ih s)
    | notice message colour =>
      rw [select_notice]
      split_ifs
      · exact ih s
      · exact .act rfl (ih s)
    | emit c =>
      rw [select_emit]
      split_ifs
      · exact ih s
      · refine .ask _ fun r => ?_
        rcases r with e | r
        · exact .fail _ _
        rw [answered]
        cases choiceOf r with
        | yes => exact .act rfl (ih _)
        | no => exact ih _
        | acceptRemaining => exact .act rfl (.act rfl (ih _))
        | skipRemaining => exact .act rfl (ih _)
        | quit =>
          refine .act rfl ?_
          exact .givenUp (by rfl) paths
      · exact .act rfl (ih s)

end Selection

/-! ### The way of an expansion -/

namespace Itinerary

variable (leads : Step → Option TemplateReference) (library : Library)

/-- The templates on the way of steps, for each reference those that `nested` says. -/
def steps (nested : Path → List Path) (base : Path) (l : List Step) : List Path :=
  l.flatMap fun step => (leads step).elim [] fun r => nested (base.join r.path)

/-- The templates on the way of a template, down to this many levels. -/
def template : Nat → Path → List Path
  | 0, _ => []
  | levels + 1, path =>
    path :: match library path with
      | .error _ => []
      | .ok n => steps leads (template levels) path.directory (Template.ofNode n).steps

/-- The templates on the way of jobs, down to this many levels. -/
def jobs (levels : Nat) (base : Path) (js : List Job) : List Path :=
  js.flatMap fun j =>
    if j.declaresSteps then steps leads (template leads library levels) base j.steps else []

end Itinerary

namespace Expansion

open Dialogue

/-- Which templates are left out is all that a reference depends on. -/
theorem reference?_congr {s s' : Settings}
    (h : s.exclusions.templates = s'.exclusions.templates) :
    Step.reference? s = Step.reference? s' := by
  funext step
  rw [Step.reference?, Step.reference?]
  simp only [Exclusions.excludesTemplate, h]

variable {s : Settings} {library : Library} {levels bound : Nat}

theorem loadsAll_bindParameters (template : String) (names : List String) (b : Bindings) :
    LoadsAll (bindParameters template names b) [] := by
  induction names generalizing b with
  | nil => exact .done b
  | cons name names ih =>
    rw [bindParameters]
    split_ifs
    · exact ih b
    · have hrequest : LoadsAll (requestParameter name template) [] := by
        refine .ask _ fun r => ?_
        split
        · exact .done _
        · exact .fail _ _
        · exact .fail _ _
        · exact .fail _ _
      exact hrequest.bind fun value => ih (b.insert (name, value))

theorem loadsAll_command (b : Bindings) (c : StepCommand) : LoadsAll (command s b c) [] := by
  rw [command]
  split
  · exact .act rfl (.done ())
  · split_ifs
    · exact .done ()
    · exact .act rfl (.done ())

/-- Steps load what their references load, one behind the other. -/
theorem loadsAll_stepsWith {nested : Path → Bindings → Dialogue Unit}
    {itinerary : Path → List Path} (hnested : ∀ path b, LoadsAll (nested path b) (itinerary path))
    (scope : Scope) (l : List Step) :
    LoadsAll (stepsWith s nested scope l)
      (Itinerary.steps (·.reference? s) itinerary scope.base l) := by
  induction l with
  | nil => exact .done ()
  | cons step rest ih =>
    rw [Itinerary.steps, List.flatMap_cons]
    refine .bind ?_ fun _ => ?_
    · rw [elim_template]
      cases step.reference? s with
      | none => exact .done ()
      | some r => exact hnested _ _
    · have hown : LoadsAll (step.command.elim (.done ()) (command s scope.bindings)) [] := by
        cases step.command with
        | none => exact .done ()
        | some c => exact loadsAll_command _ c
      exact hown.bind fun _ => ih

/-- Where templates may be nested less deep than the way goes, the expansion fails on the way. -/
theorem loadsAll_templateFrom (hlevels : levels ≤ bound) (depth : Nat) (path : Path)
    (b : Bindings) :
    LoadsAll (templateFrom s library levels depth path b)
      (Itinerary.template (·.reference? s) library bound path) := by
  induction levels generalizing bound depth path b with
  | zero => exact .fail _ _
  | succ levels ih =>
    obtain ⟨bound, rfl⟩ : ∃ n, bound = n + 1 := ⟨bound - 1, by omega⟩
    rw [templateFrom_succ, Itinerary.template]
    refine .load path depth ?_
    cases library path with
    | error e => exact .fail e _
    | ok n =>
      rw [Dialogue.ofExcept, bind_done]
      refine (loadsAll_bindParameters _ _ b).bind fun b' => ?_
      exact loadsAll_stepsWith (ih (Nat.le_of_succ_le_succ hlevels) (depth + 1)) _ _

theorem loadsAll_jobs (library : Library) (hbound : s.maxTemplateDepth ≤ bound) (base : Path)
    (js : List Job) :
    LoadsAll (jobs s library base js)
      (Itinerary.jobs (·.reference? s) library bound base js) := by
  induction js with
  | nil => exact .done ()
  | cons j js ih =>
    rw [jobs_cons, Itinerary.jobs, List.flatMap_cons]
    refine .bind ?_ fun _ => ih
    split_ifs
    · refine .act rfl (loadsAll_stepsWith (fun path b => ?_) (.root base) j.steps)
      exact loadsAll_templateFrom hbound _ path b
    · exact .done ()

end Expansion

/-! ### Building -/

/-- The templates that were loaded on the way to an outcome. -/
def Outcome.loads {α σ : Type} (o : Outcome α σ) : List Path :=
  Dialogue.loads o.events

variable {σ τ : Type} [Prompting σ] [Prompting τ]

/-- What is built is built on one way through the templates: all of it is gone if a script comes
out, and else the run breaks off on it. -/
theorem loads_buildScript {s : Settings} {library : Library} {entry : Path} {p : Pipeline}
    (hload : Pipeline.load library entry = .ok p) {bound : Nat}
    (hbound : s.maxTemplateDepth ≤ bound) (prompter : σ) :
    let built := buildScript s library entry prompter
    let way := Itinerary.jobs (Step.reference? s) library bound entry.directory p.jobs
    built.loads <+: way ∧ ∀ script, built.result = .ok (some script) → built.loads = way := by
  intro built way
  have halong := Selection.loadsAlong_select
    (Expansion.loadsAll_jobs library hbound entry.directory p.jobs)
    s.interactive .undecided
  rw [← Expansion.pipeline, ← expandPipeline_eq_select] at halong
  obtain ⟨hbegins, hall⟩ := halong.run prompter
  obtain ⟨-, hevents, -, hquit, hfailed⟩ := buildScript_of_load (s := s) hload prompter
  have hloads : built.loads =
      Dialogue.loads ((expandPipeline s library p entry.directory).run prompter).events :=
    congrArg Dialogue.loads hevents
  rw [hloads]
  refine ⟨hbegins, fun script hscript => ?_⟩
  cases houtcome : ((expandPipeline s library p entry.directory).run prompter).outcome with
  | error e => cases hscript.symm.trans (hfailed e houtcome)
  | ok flow =>
    refine hall flow houtcome ?_
    rintro rfl
    cases hscript.symm.trans (hquit houtcome)

/-- The templates that are loaded depend on the files and on the templates that are left out, and on
nothing else. Two runs of one entry definition that both build a script load the same templates in
the same order, each as often, whatever else in their settings and answers is different. A run that
breaks off has loaded the first of them, and of two runs that break off, one has loaded what the
other one began with. -/
theorem buildScript_loads {s s' : Settings}
    (htemplates : s.exclusions.templates = s'.exclusions.templates) (fs : FileSystem)
    (entry : Path) (prompter : σ) (prompter' : τ) :
    let built := buildScript s fs.library entry prompter
    let built' := buildScript s' fs.library entry prompter'
    (∀ script script', built.result = .ok (some script) → built'.result = .ok (some script') →
        built.loads = built'.loads) ∧
      (∀ script, built.result = .ok (some script) → built'.loads <+: built.loads) ∧
      (built.loads <+: built'.loads ∨ built'.loads <+: built.loads) := by
  intro built built'
  cases hload : Pipeline.load fs.library entry with
  | error e =>
    have hbuilt : built = ⟨.error e, [], prompter⟩ := by simp only [built, buildScript, hload]
    have hbuilt' : built' = ⟨.error e, [], prompter'⟩ := by simp only [built', buildScript, hload]
    rw [hbuilt, hbuilt']
    refine ⟨fun script script' h => ?_, fun script h => ?_, .inl List.prefix_rfl⟩
    · cases h
    · cases h
  | ok p =>
    -- The way is laid out as deep as the deeper of the two bounds.
    have hdeep := Nat.le_max_left s.maxTemplateDepth s'.maxTemplateDepth
    have hdeep' := Nat.le_max_right s.maxTemplateDepth s'.maxTemplateDepth
    obtain ⟨hbegins, hall⟩ := loads_buildScript hload hdeep prompter
    obtain ⟨hbegins', hall'⟩ := loads_buildScript hload hdeep' prompter'
    rw [← Expansion.reference?_congr htemplates] at hbegins' hall'
    refine ⟨fun script script' h h' => ?_, fun script h => ?_, ?_⟩
    · exact (hall script h).trans (hall' script' h').symm
    · rw [hall script h]
      exact hbegins'
    · exact List.prefix_or_prefix_of_prefix hbegins hbegins'

/-- A run that may nest templates one deep only breaks off on the way of a run that asks about every
command and is answered with no. -/
theorem buildScript_loads_forwarding :
    let shallow : Settings := { maxTemplateDepth := 1 }
    let asking : Settings := { interactive := true, workingDirectory := "/w" }
    let full := buildScript asking forwardingFiles.library ⟨"/p"⟩ (Scripted.ofChoices [.no, .no])
    let cut := buildScript shallow forwardingFiles.library ⟨"/p"⟩ (⟨""⟩ : Unattended)
    asking.exclusions.templates = shallow.exclusions.templates ∧
      full.result = .ok (some ⟨{}, "/w", [.job unnamedJob]⟩) ∧
      full.loads = [⟨"/t/a"⟩, ⟨"/t/b"⟩] ∧ cut.loads <+: full.loads := by
  intro shallow asking full cut
  have hfull : full.result = .ok (some ⟨{}, "/w", [.job unnamedJob]⟩) := by decide +kernel
  have htemplates : asking.exclusions.templates = shallow.exclusions.templates := rfl
  obtain ⟨-, hbegins, -⟩ := buildScript_loads htemplates forwardingFiles ⟨"/p"⟩
    (Scripted.ofChoices [.no, .no]) (⟨""⟩ : Unattended)
  exact ⟨htemplates, hfull, by decide +kernel, hbegins _ hfull⟩

end PipelineScript
