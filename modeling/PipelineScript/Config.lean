import PipelineScript.Exclusions
import PipelineScript.Text.White

/-!
# Configuration

A configuration file gives the settings that stay the same from run to run.
-/

namespace PipelineScript

open Yaml (Document Problem Segment Tree)

/-- The task whose steps are commands. -/
def commandLineTask : String := "CmdLine@2"

/-- The settings that a configuration file gives. -/
structure Config where
  exclusions : Exclusions
  /-- The tasks whose steps are commands. -/
  supportedTasks : List String
  /-- The depth to which templates may be nested. -/
  maxTemplateDepth : Nat
  logLevel : String
  deriving DecidableEq, Repr

namespace Config

/-- The configuration without a file. -/
def default : Config := ⟨.none, [commandLineTask], 32, "info"⟩

/-- The fields of a configuration. -/
def fieldNames : List String :=
  ["exclusions", "supported_tasks", "max_template_depth", "log_level"]

/-- Reads a configuration from a node of a document. -/
def read (d : Document) (path : List Segment) (t : Tree) : Except Problem Config :=
  d.readRecord path "struct Config" fieldNames default
    (fun c name path t => do
      if name = "exclusions" then return { c with exclusions := ← Exclusions.read d path t }
      else if name = "supported_tasks" then
        return { c with supportedTasks := ← d.readTexts path t }
      else if name = "max_template_depth" then
        return { c with maxTemplateDepth := ← d.readUnsigned path t }
      else return { c with logLevel := ← d.readText path t })
    t

/-- The configuration that a text describes; white space alone is the default. -/
def parse (text : String) : Except Problem Config :=
  if (Text.trimWhite text.toList).isEmpty then .ok default
  else Document.readAs (fun d => d.root.elim (.ok default) (read d [])) text

end Config

end PipelineScript
