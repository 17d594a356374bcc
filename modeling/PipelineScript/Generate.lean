import PipelineScript.Validation

/-!
# Answering a request

The paths of a request are checked in turn, and then its script is built and written.
-/

namespace PipelineScript

/-- The configuration in a file, or the default if none is given. -/
def Config.load (fs : FileSystem) : Option Path → Except Failure Config
  | none => .ok .default
  | some path =>
    match fs.read path with
    | .error fault => .error (.unreadableConfig path fault)
    | .ok text =>
      match Config.parse text with
      | .error problem => .error (.invalidConfig path problem)
      | .ok c => .ok c

/-- What a request ends with: a script, `none` if the user quit, or a failure; what happened while
the script was built; the prompter and the file system behind it. -/
structure Generated (σ : Type) where
  result : Except Failure (Option Written)
  events : List Dialogue.Event
  prompter : σ
  fileSystem : FileSystem

variable {σ : Type} [Prompter σ]

namespace Validation

/-- Goes on with a path that has been checked. -/
def Result.thenWith (r : Result σ) (fs : FileSystem) (next : Path → σ → Generated σ) :
    Generated σ :=
  match r with
  | (.error f, s) => ⟨.error f, [], s, fs⟩
  | (.ok none, s) => ⟨.ok none, [], s, fs⟩
  | (.ok (some p), s) => next p s

end Validation

open Validation in
/-- Answers a request. -/
def generate [Quoting] (r : Request) (c : Config) (fs : FileSystem) (s : σ) : Generated σ :=
  Result.thenWith (checkInput fs r.path s) fs fun input s =>
  Result.thenWith (checkDirectory fs r.workingDirectory s) fs fun directory s =>
  Result.thenWith (checkOutput fs r.force r.output s) fs fun output s =>
    let (built, fs) := generateScript (.ofRequest r c directory.text) fs input output s
    ⟨built.result.mapError (.generation input), built.events, built.prompter, fs⟩

end PipelineScript
