import PipelineScript.Expander

/-!
# Building scripts

The entry definition is loaded, its pipeline expanded, and what is kept of it becomes the script.
The script is written only if the run neither fails nor is quit.
-/

namespace PipelineScript

/-- The definition in a file. -/
def FileSystem.library (fs : FileSystem) : Library := fun path =>
  match fs.read path with
  | .error fault => .error (.unreadable path fault)
  | .ok text =>
    match Node.parse text with
    | .error fault => .error (.malformed path fault)
    | .ok n => .ok n

/-- The pipeline of an entry definition. -/
def Pipeline.load (library : Library) (path : Path) : Except GenerationError Pipeline := do
  match Pipeline.ofNode? (← library path) with
  | some p => return p
  | none => throw (.missingJobs path)

open Dialogue (Run Event)

/-- What a run makes of a pipeline, with what happened on the way and the prompter behind it. -/
structure Outcome (α σ : Type) where
  result : Except GenerationError (Option α)
  events : List Event
  prompter : σ

variable {σ : Type}

/-- Builds the script of an entry definition; the result is `none` if the user quit. -/
def buildScript [Prompting σ] (s : Settings) (library : Library) (path : Path) (prompter : σ) :
    Outcome Script σ :=
  match Pipeline.load library path with
  | .error e => ⟨.error e, [], prompter⟩
  | .ok p =>
    let r := (expandPipeline s library p path.directory).run prompter
    let result := r.outcome.map fun
      | .continued _ => some ⟨s.script, s.workingDirectory, r.entries⟩
      | .terminated => none
    ⟨result, r.events, r.prompter⟩

/-- A script that has been written. -/
structure Written where
  path : Path
  /-- The commands of the script, in order. -/
  commands : List Command
  deriving DecidableEq, Repr

/-- Writes a finished script and then makes it executable.  A fault of the second step is a failure
too, and leaves the script where it was written. -/
def Script.writeTo [Quoting] (script : Script) (fs : FileSystem) (output : Path) :
    Except GenerationError Unit × FileSystem :=
  match fs.write output script.finish with
  | .error fault => (.error (.unwritable output fault), fs)
  | .ok fs' =>
    match fs'.makeExecutable output with
    | .error fault => (.error (.unwritable output fault), fs')
    | .ok fs'' => (.ok (), fs'')

/-- Writes the script that has been built, if there is one. -/
def Outcome.written [Quoting] (o : Outcome Script σ) (fs : FileSystem) (output : Path) :
    Outcome Written σ × FileSystem :=
  match o.result with
  | .error e => (⟨.error e, o.events, o.prompter⟩, fs)
  | .ok none => (⟨.ok none, o.events, o.prompter⟩, fs)
  | .ok (some script) =>
    let (result, fs') := script.writeTo fs output
    (⟨result.map fun _ => some ⟨output, script.commands⟩, o.events, o.prompter⟩, fs')

/-- Builds the script of an entry definition and writes it, executable, to `output`. -/
def generateScript [Quoting] [Prompting σ] (s : Settings) (fs : FileSystem) (path output : Path)
    (prompter : σ) : Outcome Written σ × FileSystem :=
  (buildScript s fs.library path prompter).written fs output

end PipelineScript
