import PipelineScript.Dialogue
import PipelineScript.Placeholder
import PipelineScript.Settings

/-!
# Expansion

A pipeline is flattened depth first: a step runs its template and then its command.  The expansion
offers every command that is not excluded and whose task is supported; which of them are kept is
decided by a selection.  A template is loaded each time it is referred to, and its declared
parameters that have no value are asked for.
-/

namespace PipelineScript

/-- How definitions are read. -/
abbrev Library := Path → Except GenerationError Node

/-- What the steps of a list refer to. -/
structure Scope where
  /-- The directory in which references are made. -/
  base : Path
  bindings : Bindings
  /-- The number of templates around the steps. -/
  depth : Nat
  deriving DecidableEq, Repr, Inhabited

namespace Scope

/-- The scope of the steps of a job. -/
def root (base : Path) : Scope := ⟨base, [], 0⟩

/-- The path of a reference. -/
def resolve (s : Scope) (reference : String) : Path :=
  s.base.join reference

end Scope

namespace Expansion

/-- The name by which a template is shown. -/
def templateName (path : Path) : String :=
  path.fileName?.getD path.text

/-- The question for the value of a parameter. -/
def parameterQuestion (parameter template : String) : Question where
  text := "Provide a value now?"
  context := some s!"Error: Missing parameter '{parameter}' for template '{template}'."
  choices := [.quit]
  textHint := some parameter
  default := some .quit
  colour := .red

/-- Asks for the value of a parameter. -/
def requestParameter (parameter template : String) : Dialogue String :=
  .ask (parameterQuestion parameter template) fun
    | .ok (.text value) => .done value
    | .ok (.choice _) => .fail (.missingParameter parameter template)
    | .error .unavailable => .fail (.missingParameter parameter template)
    | .error e => .fail (.unanswered e)

/-- The bindings with a value for each declared parameter. -/
def bindParameters (template : String) : List String → Bindings → Dialogue Bindings
  | [], b => .done b
  | p :: ps, b =>
    if (b.lookup p).isSome then bindParameters template ps b
    else do
      let value ← requestParameter p template
      bindParameters template ps (b.insert (p, value))

/-- The warning for a command of an unsupported task. -/
def unsupportedTask (task label : String) : String :=
  s!"Warning: Unsupported task type '{task}' for command '{label}'. Skipping command.\n"

/-- Offers a command. -/
def command (s : Settings) (b : Bindings) (c : StepCommand) : Dialogue Unit :=
  match c.task.filter (!s.supports ·) with
  | some task => .perform (.notice (unsupportedTask task c.label) .yellow)
  | none =>
    if s.exclusions.excludesCommand c.label then .done ()
    else .perform (.emit ⟨c.label, sanitize s.workingDirectory b c.script⟩)

/-- The values that a reference gives to parameters. -/
def referenceBindings (s : Settings) (b : Bindings) (r : TemplateReference) : Bindings :=
  .ofEntries (r.parameters.map fun (name, value) => (name, sanitize s.workingDirectory b value))

/-- Expands the template of a step, by means of `nested`. -/
def reference (s : Settings) (nested : Path → Bindings → Dialogue Unit) (scope : Scope)
    (r : TemplateReference) : Dialogue Unit :=
  if s.exclusions.excludesTemplate r.path then .done ()
  else nested (scope.resolve r.path) (referenceBindings s scope.bindings r)

/-- Expands steps, of which `nested` expands the templates. -/
def stepsWith (s : Settings) (nested : Path → Bindings → Dialogue Unit) (scope : Scope) :
    List Step → Dialogue Unit
  | [] => .done ()
  | step :: steps => do
    step.template.elim (.done ()) (reference s nested scope)
    step.command.elim (.done ()) (command s scope.bindings)
    stepsWith s nested scope steps

/-- Expands a template that is nested `depth` deep when templates may be nested `levels` deep from
there on, itself included. -/
def templateFrom (s : Settings) (library : Library) :
    Nat → Nat → Path → Bindings → Dialogue Unit
  | 0, _, path, _ => .fail (.nestedTooDeep path s.maxTemplateDepth)
  | levels + 1, depth, path, b => do
    .perform (.load path depth)
    let t := Template.ofNode (← .ofExcept (library path))
    let b ← bindParameters (templateName path) t.parameters b
    stepsWith s (templateFrom s library levels (depth + 1)) ⟨path.directory, b, depth⟩ t.steps

/-- Expands a template that is nested `depth` deep. -/
def template (s : Settings) (library : Library) (path : Path) (b : Bindings) (depth : Nat) :
    Dialogue Unit :=
  templateFrom s library (s.maxTemplateDepth + 1 - depth) depth path b

/-- Expands steps. -/
def steps (s : Settings) (library : Library) (scope : Scope) (steps : List Step) :
    Dialogue Unit :=
  stepsWith s (fun path b => template s library path b (scope.depth + 1)) scope steps

/-- Expands jobs; a job that declares no steps is passed over. -/
def jobs (s : Settings) (library : Library) (base : Path) : List Job → Dialogue Unit
  | [] => .done ()
  | j :: js => do
    if j.declaresSteps then
      .perform (.job j.name)
      steps s library (.root base) j.steps
    jobs s library base js

/-- Expands a pipeline whose references are made in the directory `base`. -/
def pipeline (s : Settings) (library : Library) (p : Pipeline) (base : Path) : Dialogue Unit :=
  jobs s library base p.jobs

end Expansion

end PipelineScript
