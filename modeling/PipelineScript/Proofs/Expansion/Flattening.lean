import PipelineScript.Expansion

/-!
# The flattening of a pipeline

The flattening of a pipeline is what its script holds when every command is kept: the header of
each job, and behind it the commands of its steps, those of a template in front of the command of
the step that refers to it. It is defined here without questions, answers and notices, by a
recursion that ends because a template deeper than the bound is refused before it is read.

`Reached` gathers the steps that the flattening may come to. If every one of them supplies the
parameters that its template declares, there is nothing to ask for.
-/

namespace PipelineScript

/-- The template that a step refers to, unless it is left out. -/
def Step.reference? (s : Settings) (step : Step) : Option TemplateReference :=
  step.template.filter fun r => !s.exclusions.excludesTemplate r.path

/-- What a part of a pipeline is flattened to, or the failure that is met first. -/
abbrev Flattening := Except GenerationError (List Script.Entry)

namespace Flattening

/-- The flattening of two parts, one behind the other. -/
def andThen (first second : Flattening) : Flattening := do
  let entries ← first
  return entries ++ (← second)

/-- A command is kept if it has no task or a supported one, and its label is not left out. -/
def keeps (s : Settings) (c : StepCommand) : Bool :=
  c.task.all s.supports && !s.exclusions.excludesCommand c.label

/-- The flattening of the command of a step. -/
def command (s : Settings) (b : Bindings) (c : StepCommand) : Flattening :=
  .ok (if keeps s c then [.command ⟨c.label, sanitize s.workingDirectory b c.script⟩] else [])

/-- The parameters that a reference supplies, with their values in the scope of the reference. -/
def supplied (s : Settings) (b : Bindings) (r : TemplateReference) : Bindings :=
  .ofEntries (r.parameters.map fun entry => (entry.1, sanitize s.workingDirectory b entry.2))

mutual

/-- The flattening of steps. -/
def steps (s : Settings) (library : Library) (scope : Scope) : List Step → Flattening
  | [] => .ok []
  | step :: rest =>
    let nested : Flattening := match step.reference? s with
      | none => .ok []
      | some r =>
        template s library (scope.base.join r.path) (supplied s scope.bindings r) (scope.depth + 1)
    let own : Flattening := match step.command with
      | none => .ok []
      | some c => command s scope.bindings c
    nested.andThen (own.andThen (steps s library scope rest))
termination_by l => (2 * (s.maxTemplateDepth + 1 - scope.depth) - 1, l.length + 1)
decreasing_by
  · simp only [Prod.lex_def, List.length_cons]
    omega
  · exact Prod.Lex.right _ (by simp)

/-- The flattening of a template that is nested `depth` deep. -/
def template (s : Settings) (library : Library) (path : Path) (b : Bindings) (depth : Nat) :
    Flattening :=
  if s.maxTemplateDepth < depth then .error (.nestedTooDeep path s.maxTemplateDepth)
  else do
    let n ← library path
    steps s library ⟨path.directory, b, depth⟩ (Template.ofNode n).steps
termination_by (2 * (s.maxTemplateDepth + 1 - depth), 0)
decreasing_by
  · simp only [Prod.lex_def]
    omega

end

/-- The flattening of jobs, whose steps have no parameters and are not nested. -/
def jobs (s : Settings) (library : Library) (base : Path) : List Job → Flattening
  | [] => .ok []
  | j :: rest =>
    let own : Flattening :=
      if j.declaresSteps then
        andThen (.ok [.job j.name]) (steps s library ⟨base, [], 0⟩ j.steps)
      else .ok []
    own.andThen (jobs s library base rest)

/-- The flattening of the pipeline of an entry definition. -/
def pipeline (s : Settings) (library : Library) (entry : Path) (p : Pipeline) : Flattening :=
  jobs s library entry.directory p.jobs

/-- The commands of entries, in order. -/
def commands (entries : List Script.Entry) : List Command :=
  entries.filterMap Script.Entry.command?

end Flattening

/-- The steps that an expansion may come to, each with the directory of its file. -/
inductive Reached (s : Settings) (library : Library) (entry : Path) (p : Pipeline) :
    Path → Step → Prop
  | ofJob {j : Job} {step : Step} (hj : j ∈ p.jobs) (hdeclares : j.declaresSteps)
      (hstep : step ∈ j.steps) : Reached s library entry p entry.directory step
  | ofTemplate {directory : Path} {step nested : Step} {r : TemplateReference} {n : Node}
      (h : Reached s library entry p directory step) (hr : step.reference? s = some r)
      (hn : library (directory.join r.path) = .ok n) (hstep : nested ∈ (Template.ofNode n).steps) :
      Reached s library entry p (directory.join r.path).directory nested

/-- Every reference supplies each parameter that its template declares. -/
def SuppliesParameters (s : Settings) (library : Library) (entry : Path) (p : Pipeline) : Prop :=
  ∀ directory step r n, Reached s library entry p directory step → step.reference? s = some r →
    library (directory.join r.path) = .ok n →
    ∀ name ∈ (Template.ofNode n).parameters, name ∈ r.parameters.map Prod.fst

/-- The steps in a list are those that an expansion may come to, and each reference among them
supplies its parameters. -/
def suppliesWithin (s : Settings) (library : Library) (entry : Path) (p : Pipeline)
    (places : List (Path × Step)) : Bool :=
  (p.jobs.all fun j =>
      !j.declaresSteps || j.steps.all fun step => places.contains (entry.directory, step)) &&
    places.all fun (directory, step) =>
      match step.reference? s with
      | none => true
      | some r =>
        match library (directory.join r.path) with
        | .error _ => true
        | .ok n =>
          (Template.ofNode n).parameters.all (r.parameters.map Prod.fst).contains &&
            (Template.ofNode n).steps.all fun nested =>
              places.contains ((directory.join r.path).directory, nested)

section Within

variable {s : Settings} {library : Library} {entry : Path} {p : Pipeline}
  {places : List (Path × Step)}

/-- A reference of a step in such a list supplies its parameters, and the steps of its template are
in the list. -/
theorem suppliesWithin_reference (h : suppliesWithin s library entry p places = true)
    {directory : Path} {step : Step} {r : TemplateReference} {n : Node}
    (hmem : (directory, step) ∈ places) (hr : step.reference? s = some r)
    (hn : library (directory.join r.path) = .ok n) :
    (∀ name ∈ (Template.ofNode n).parameters, name ∈ r.parameters.map Prod.fst) ∧
      ∀ nested ∈ (Template.ofNode n).steps,
        ((directory.join r.path).directory, nested) ∈ places := by
  rw [suppliesWithin, Bool.and_eq_true, List.all_eq_true, List.all_eq_true] at h
  simpa [hr, hn] using h.2 _ hmem

/-- Such a list holds every step that an expansion may come to. -/
theorem Reached.mem_of_suppliesWithin (h : suppliesWithin s library entry p places = true)
    {directory : Path} {step : Step} (hreached : Reached s library entry p directory step) :
    (directory, step) ∈ places := by
  induction hreached with
  | ofJob hj hdeclares hstep =>
    rw [suppliesWithin, Bool.and_eq_true, List.all_eq_true, List.all_eq_true] at h
    have hj := h.1 _ hj
    simp only [hdeclares, Bool.not_true, Bool.false_or, List.all_eq_true,
      List.contains_iff_mem] at hj
    exact hj _ hstep
  | ofTemplate hreached hr hn hstep ih => exact (suppliesWithin_reference h ih hr hn).2 _ hstep

/-- Whether every reference supplies its parameters can be seen from any finite list of steps that
holds those of the jobs and those of the templates that its own steps refer to. -/
theorem SuppliesParameters.of_suppliesWithin (places : List (Path × Step))
    (h : suppliesWithin s library entry p places = true) :
    SuppliesParameters s library entry p := by
  intro directory step r n hreached hr hn
  exact (suppliesWithin_reference h (hreached.mem_of_suppliesWithin h) hr hn).1

end Within

end PipelineScript
