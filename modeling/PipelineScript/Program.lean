import PipelineScript.CommandLine.Completion
import PipelineScript.Generate
import PipelineScript.Verbosity

/-!
# The program

The program does what the command line asks for.  Its result goes to the standard output; warnings
about the filter of the log, questions, notices and failures go to the standard error output.
-/

namespace PipelineScript

/-- What the program ends with: a text for the standard output or a failure; the warnings about the
filter of the log; the file that was written; the templates that were loaded; the prompter and the
file system behind it. -/
structure Ending (σ : Type) where
  result : Except Failure String
  warnings : List String
  written : Option Path
  loaded : List Path
  prompter : σ
  fileSystem : FileSystem

/-- The program quotes words as POSIX shells need it. -/
instance : Quoting := .posix

namespace Program

variable {σ : Type} [Prompter σ]

/-- The line that tells where the script is. -/
def successLine (w : Written) : String :=
  Colour.green.paint ("Script generated successfully to " ++ w.path.text) ++ "\n"

/-- The warnings about the filter of the log, which is read only if verbose output is asked for. -/
def filterWarnings (verbosity : Nat) (c : Config) : List String :=
  if verbosity = 0 then [] else LogFilter.warnings (logLevel verbosity c.logLevel)

/-- Generates a script; commands can be selected at a terminal only. -/
def generate (r : Request) (config : Option Path) (verbosity : Nat) (hasTerminal : Bool)
    (fs : FileSystem) (s : σ) : Ending σ :=
  match Config.load fs config with
  | .error f => ⟨.error f, [], none, [], s, fs⟩
  | .ok c =>
    let warnings := filterWarnings verbosity c
    if r.interactive && !hasTerminal then ⟨.error .needsTerminal, warnings, none, [], s, fs⟩
    else
      let g := PipelineScript.generate r c fs s
      let written := g.result.toOption.bind fun w => w.map (·.path)
      let loaded := g.events.filterMap Dialogue.Event.loaded?
      let result := g.result.map fun w => w.elim "" successLine
      ⟨result, warnings, written, loaded, g.prompter, g.fileSystem⟩

/-- Prints completions, or writes them to a file. -/
def completions (shell : Shell) (output : Option Path) (fs : FileSystem) (s : σ) : Ending σ :=
  let text := CommandLine.completionScript shell
  match output with
  | none => ⟨.ok (text ++ "\n"), [], none, [], s, fs⟩
  | some path =>
    match fs.write path text with
    | .error fault => ⟨.error (.unwritableCompletions path fault), [], none, [], s, fs⟩
    | .ok fs => ⟨.ok "", [], some path, [], s, fs⟩

/-- Does what an invocation asks for. -/
def run (i : Invocation) (hasTerminal : Bool) (fs : FileSystem) (s : σ) : Ending σ :=
  match i with
  | .generate r config verbosity => generate r config verbosity hasTerminal fs s
  | .completions shell output => completions shell output fs s

/-- What is told about the filter of the log. -/
def warningText (warnings : List String) : String :=
  Script.joinLines warnings

/-- What is told about a failure; with `detailed` its causes follow under it. -/
def failureText (detailed : Bool) (f : Failure) : String :=
  "Error: " ++ f.line ++ "\n" ++ if detailed then f.report ++ "\n" else ""

/-- The exit code of a run. -/
def exitCode {α : Type} (result : Except Failure α) : Nat :=
  match result with
  | .ok _ => 0
  | .error _ => 1

/-- The line that tells the version. -/
def versionLine : String :=
  programName ++ " " ++ programVersion ++ "\n"

end Program

end PipelineScript
