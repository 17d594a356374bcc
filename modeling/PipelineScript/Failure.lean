import PipelineScript.GenerationError
import PipelineScript.Yaml.Misfit

/-!
# Failures of the program

A failure is told with its causes, the outermost message first.
-/

namespace PipelineScript

/-- The reason why the program failed. -/
inductive Failure where
  /-- An empty path has no absolute path. -/
  | emptyPath (path : Path)
  /-- There was no answer to the question for another path. -/
  | noReplacement (e : PromptError)
  /-- There was no answer to the question whether a file is to be replaced. -/
  | noConsent (output : Path) (e : PromptError)
  | unreadableConfig (path : Path) (fault : FileFault)
  | invalidConfig (path : Path) (problem : Yaml.Problem)
  /-- No script was made from an entry definition. -/
  | generation (input : Path) (e : GenerationError)
  /-- Commands are to be selected, but there is no terminal. -/
  | needsTerminal
  | unwritableCompletions (path : Path) (fault : FileFault)
  deriving Repr

namespace Failure

/-- The messages of a failure and of its causes, the outermost first. -/
def chain : Failure → List String
  | emptyPath path =>
    [s!"Failed to resolve path: {path.text}", "cannot make an empty path absolute"]
  | noReplacement e => "Cannot ask for a replacement path" :: e.message :: e.causes
  | noConsent output e =>
    s!"Output file already exists: {output.text}" :: e.message :: e.causes
  | unreadableConfig path fault => [s!"Failed to read config: {path.text}", fault.message]
  | invalidConfig path problem => [s!"Invalid config file: {path.text}", problem.message]
  | generation input e =>
    (if e.isInDefinition then s!"Invalid pipeline definition: {input.text}"
      else s!"Failed to generate script from: {input.text}") :: e.message :: e.causes
  | needsTerminal => ["Interactive mode requires a terminal on stdin"]
  | unwritableCompletions path fault =>
    [s!"Failed to write completions to: {path.text}", fault.message]

/-- A failure and its causes on one line. -/
def line (f : Failure) : String :=
  ": ".intercalate f.chain

/-- A message whose lines behind the first one are indented. -/
def indentRest (indent : String) (message : String) : String :=
  message.replace "\n" ("\n" ++ indent)

/-- The causes of a failure, one under the other; they are numbered if there are several. -/
def causeLines : List String → List String
  | [] => []
  | [cause] => ["    " ++ indentRest "    " cause]
  | causes =>
    causes.zipIdx.map fun (cause, i) =>
      let number := toString i
      "".pushn ' ' (5 - number.length) ++ number ++ ": " ++ indentRest "       " cause

/-- A failure with its causes under it. -/
def report (f : Failure) : String :=
  match f.chain with
  | [] => ""
  | message :: causes =>
    message ++ if causes.isEmpty then "" else
      "\n\nCaused by:\n" ++ "\n".intercalate (causeLines causes)

end Failure

end PipelineScript
