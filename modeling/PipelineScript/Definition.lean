import PipelineScript.Node

/-!
# Definitions

A node is interpreted as a step, a job, a pipeline or a template.  What a definition does not
know is passed over.
-/

namespace PipelineScript

/-- The values of parameters by their names. -/
abbrev Bindings := List (String × String)

namespace Bindings

/-- Puts an entry in its place in the order of the names, unless its name has a value. -/
def insert (entry : String × String) : Bindings → Bindings
  | [] => [entry]
  | e :: es =>
    if entry.1 < e.1 then entry :: e :: es
    else if entry.1 = e.1 then e :: es
    else e :: insert entry es

/-- The bindings of a list of entries, of which the last one with a name counts. -/
def ofEntries (es : List (String × String)) : Bindings :=
  es.foldr insert []

/-- The bindings that the entries of a mapping are. -/
def ofNode (n : Node) : Bindings :=
  ofEntries ((n.entries?.getD []).map fun e => (e.1, e.2.display))

end Bindings

/-- A reference with slashes in place of backslashes. -/
def normalizeReference (reference : String) : String :=
  reference.map fun c => if c = '\\' then '/' else c

/-- A reference to a template with the values of its parameters. -/
structure TemplateReference where
  path : String
  parameters : Bindings
  deriving DecidableEq, Repr, Inhabited

/-- A command of a step. -/
structure StepCommand where
  displayName : Option String
  task : Option String
  script : String
  deriving DecidableEq, Repr, Inhabited

/-- The label of a command without a name. -/
def unnamedCommand : String := "Command without display name"

/-- The name by which a command is shown. -/
def StepCommand.label (c : StepCommand) : String :=
  c.displayName.getD unnamedCommand

/-- A step, which may run a template, a command, or first the template and then the command. -/
structure Step where
  template : Option TemplateReference
  command : Option StepCommand
  deriving DecidableEq, Repr, Inhabited

namespace Step

/-- The step does nothing. -/
def isEmpty (s : Step) : Bool :=
  s.template.isNone && s.command.isNone

/-- The template that a node refers to. -/
def templateOfNode (n : Node) : Option TemplateReference :=
  ((n.get? "template").bind Node.text?).map fun path =>
    ⟨normalizeReference path, ((n.get? "parameters").map Bindings.ofNode).getD []⟩

/-- The script of a node, among its inputs or beside them. -/
def scriptOfNode (n : Node) : Option Node :=
  ((n.get? "inputs").bind (·.get? "script")).or (n.get? "script")

/-- The step that a node describes. -/
def ofNode (n : Node) : Step where
  template := templateOfNode n
  command := (scriptOfNode n).map fun script =>
    ⟨(n.get? "displayName").bind Node.text?, (n.get? "task").bind Node.text?, script.display⟩

/-- The steps that the items of a sequence describe, without those that do nothing. -/
def listOfNode (n : Option Node) : List Step :=
  (((n.bind Node.items?).getD []).map ofNode).filter (!·.isEmpty)

end Step

/-- A job. -/
structure Job where
  name : String
  steps : List Step
  /-- The job has a list of steps, even if all of them do nothing. -/
  declaresSteps : Bool
  deriving DecidableEq, Repr, Inhabited

/-- The name of a job without one. -/
def unnamedJob : String := "<unnamed job>"

/-- The job that a node describes. -/
def Job.ofNode (n : Node) : Job where
  name := ((((n.get? "job").or (n.get? "deployment")).bind Node.text?).getD unnamedJob)
  steps := Step.listOfNode (n.get? "steps")
  declaresSteps := (n.get? "steps").isSome

/-- A pipeline. -/
structure Pipeline where
  jobs : List Job
  deriving DecidableEq, Repr, Inhabited

/-- The pipeline that a node describes, if it has a key for jobs. -/
def Pipeline.ofNode? (n : Node) : Option Pipeline :=
  (n.get? "jobs").map fun jobs => ⟨(jobs.items?.getD []).map Job.ofNode⟩

/-- A template. -/
structure Template where
  /-- The names of the declared parameters, in order. -/
  parameters : List String
  steps : List Step
  deriving DecidableEq, Repr, Inhabited

/-- The names of the parameters that a node declares, as keys of a mapping or as items of a
sequence that are names or have one. -/
def Template.parameterNames : Node → List String
  | .mapping entries => entries.map Prod.fst
  | .sequence items => items.filterMap fun
    | .scalar name => some name
    | item => (item.get? "name").bind Node.text?
  | _ => []

/-- The template that a node describes. -/
def Template.ofNode (n : Node) : Template where
  parameters := ((n.get? "parameters").map parameterNames).getD []
  steps := Step.listOfNode (n.get? "steps")

end PipelineScript
