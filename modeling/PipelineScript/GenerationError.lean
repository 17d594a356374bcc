import PipelineScript.FileSystem
import PipelineScript.Question
import PipelineScript.Yaml.Fault

/-!
# Failures of a run

A run fails for one reason, which may have a cause of its own.
-/

namespace PipelineScript

/-- The reason why no script was made. -/
inductive GenerationError where
  | unreadable (path : Path) (fault : FileFault)
  | malformed (path : Path) (fault : Yaml.Fault)
  | missingJobs (path : Path)
  | missingParameter (parameter template : String)
  | nestedTooDeep (template : Path) (limit : Nat)
  | unanswered (e : PromptError)
  | unwritable (path : Path) (fault : FileFault)
  deriving DecidableEq, Repr, Inhabited

/-- The messages of the causes of a prompt without an answer, from the outermost on. -/
def PromptError.causes (e : PromptError) : List String :=
  match e with
  | .notText => [FileFault.notText.message]
  | _ => []

namespace GenerationError

/-- What is told about a failure. -/
def message : GenerationError → String
  | unreadable path fault => s!"Failed to read definition '{path.text}': {fault.message}"
  | malformed path fault => s!"Failed to parse definition '{path.text}': {fault.message}"
  | missingJobs path =>
    s!"No jobs found in the YAML file located at {path.text}! Not a valid pipeline definition."
  | missingParameter parameter template =>
    s!"Missing parameter '{parameter}' for template '{template}'"
  | nestedTooDeep template limit =>
    s!"Template nesting exceeded {limit} levels at '{template.text}'"
  | unanswered e => s!"Prompt failed: {e.message}"
  | unwritable path fault => s!"Failed to write script '{path.text}': {fault.message}"

/-- The messages of the causes of a failure, from the outermost on. -/
def causes : GenerationError → List String
  | unreadable _ fault => [fault.message]
  | malformed _ fault => [fault.message]
  | unanswered e => e.message :: e.causes
  | unwritable _ fault => [fault.message]
  | _ => []

/-- The failure lies in a definition file. -/
def isInDefinition : GenerationError → Bool
  | unreadable .. | malformed .. | missingJobs _ => true
  | _ => false

end GenerationError

end PipelineScript
