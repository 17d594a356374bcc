import PipelineScript.Exclusions
import PipelineScript.Config
import PipelineScript.Path
import PipelineScript.Script.Header

/-!
# Settings

The settings of a run are made of what the command line asks for and what the configuration says.
-/

namespace PipelineScript

/-- The settings of a run. -/
structure Settings where
  /-- The directory that is put in for its placeholder. -/
  workingDirectory : String := "."
  /-- Ask before each command. -/
  interactive : Bool := false
  script : Script.Options := {}
  exclusions : Exclusions := .none
  supportedTasks : List String := [commandLineTask]
  maxTemplateDepth : Nat := 32
  deriving DecidableEq, Repr

/-- Steps of a task are commands. -/
def Settings.supports (s : Settings) (task : String) : Bool :=
  s.supportedTasks.contains task

/-- What the command line asks for. -/
structure Request where
  /-- The definition of the pipeline. -/
  path : Path := ⟨""⟩
  /-- The script to write. -/
  output : Path := ⟨""⟩
  workingDirectory : Path := ⟨""⟩
  interactive : Bool := false
  script : Script.Options := {}
  /-- Commands and templates to leave out beside those of the configuration. -/
  exclusions : Exclusions := .none
  /-- Replace the script without asking. -/
  force : Bool := false
  deriving DecidableEq, Repr

/-- The settings for a request. -/
def Settings.ofRequest (r : Request) (c : Config) (workingDirectory : String) : Settings where
  workingDirectory
  interactive := r.interactive
  script := r.script
  exclusions := c.exclusions ++ r.exclusions
  supportedTasks := c.supportedTasks
  maxTemplateDepth := c.maxTemplateDepth

end PipelineScript
