import PipelineScript.Expansion
import PipelineScript.Selection

/-!
# The expander

The expander walks over a pipeline with a session in hand.  What is decided about a command is
handed on to all that follows it: to the next step, out of a template and to the next job.  Quitting
is no failure; it ends every list of steps that the command is in.
-/

namespace PipelineScript

/-- Goes on in the session in which something has ended, unless the user quit. -/
def Flow.andThen (flow : Flow) (next : Session → Dialogue Flow) : Dialogue Flow :=
  match flow with
  | continued session => next session
  | terminated => .done .terminated

namespace Expander

open Expansion (bindParameters referenceBindings templateName unsupportedTask)

/-- Asks about a command. -/
def confirmCommand (c : Command) (session : Session) : Dialogue (Decision × Session) := do
  let choice := Selection.choiceOf (← .inquire (Selection.question c))
  let next := session.after choice
  if next ≠ session then .perform (Selection.standing next)
  return (choice.decision, next)

/-- Adds a command to the script, unless it is not supported, left out, skipped or not wanted. -/
def processCommand (s : Settings) (b : Bindings) (c : StepCommand) (session : Session) :
    Dialogue Flow := do
  if let some task := c.task.filter (!s.supports ·) then
    if !session.skipsAll then .perform (.notice (unsupportedTask task c.label) .yellow)
    return .continued session
  let command : Command := ⟨c.label, sanitize s.workingDirectory b c.script⟩
  if s.exclusions.excludesCommand c.label then return .continued session
  if session.skipsAll then return .continued session
  if s.interactive && session.isUndecided then
    let (decision, next) ← confirmCommand command session
    match decision with
    | .keep =>
      .perform (.emit command)
      return .continued next
    | .drop => return .continued next
    | .quit =>
      .perform Selection.terminating
      return .terminated
  .perform (.emit command)
  return .continued session

/-- Expands the template that a step refers to, by means of `nested`, unless it is left out. -/
def processReference (s : Settings) (nested : Path → Bindings → Session → Dialogue Flow)
    (scope : Scope) (r : TemplateReference) (session : Session) : Dialogue Flow :=
  if s.exclusions.excludesTemplate r.path then return .continued session
  else nested (scope.resolve r.path) (referenceBindings s scope.bindings r) session

/-- Processes steps, of which `nested` expands the templates.  The template of a step comes before
its command. -/
def processStepsWith (s : Settings) (nested : Path → Bindings → Session → Dialogue Flow)
    (scope : Scope) : List Step → Session → Dialogue Flow
  | [], session => return .continued session
  | step :: steps, session => do
    let flow ← step.template.elim (.done (.continued session)) fun r =>
      processReference s nested scope r session
    flow.andThen fun session => do
      let flow ← step.command.elim (.done (.continued session)) fun c =>
        processCommand s scope.bindings c session
      flow.andThen (processStepsWith s nested scope steps)

/-- Resolves a template that is nested `depth` deep when templates may be nested `levels` deep from
there on, itself included. -/
def resolveTemplateFrom (s : Settings) (library : Library) :
    Nat → Nat → Path → Bindings → Session → Dialogue Flow
  | 0, _, path, _, _ => .fail (.nestedTooDeep path s.maxTemplateDepth)
  | levels + 1, depth, path, b, session => do
    .perform (.load path depth)
    let t := Template.ofNode (← .ofExcept (library path))
    let b ← bindParameters (templateName path) t.parameters b
    processStepsWith s (resolveTemplateFrom s library levels (depth + 1))
      ⟨path.directory, b, depth⟩ t.steps session

/-- Resolves a template that is nested `depth` deep. -/
def resolveTemplate (s : Settings) (library : Library) (path : Path) (b : Bindings) (depth : Nat)
    (session : Session) : Dialogue Flow :=
  resolveTemplateFrom s library (s.maxTemplateDepth + 1 - depth) depth path b session

/-- Processes steps. -/
def processSteps (s : Settings) (library : Library) (steps : List Step) (scope : Scope)
    (session : Session) : Dialogue Flow :=
  processStepsWith s (fun path b => resolveTemplate s library path b (scope.depth + 1)) scope steps
    session

/-- Processes the steps of jobs; a job that declares no steps is passed over. -/
def processJobs (s : Settings) (library : Library) (base : Path) :
    List Job → Session → Dialogue Flow
  | [], session => return .continued session
  | job :: jobs, session =>
    if job.declaresSteps then do
      .perform (.job job.name)
      let flow ← processSteps s library job.steps (.root base) session
      flow.andThen (processJobs s library base jobs)
    else processJobs s library base jobs session

end Expander

/-- Expands a pipeline whose references are made in the directory `base`. -/
def expandPipeline (s : Settings) (library : Library) (p : Pipeline) (base : Path) :
    Dialogue Flow :=
  Expander.processJobs s library base p.jobs .undecided

end PipelineScript
