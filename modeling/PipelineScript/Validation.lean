import PipelineScript.Build
import PipelineScript.Failure

/-!
# Checking the paths of a request

A path is made absolute and, while it cannot be used, another one is asked for.  Asking ends with
the supply of the prompter.
-/

namespace PipelineScript

namespace Validation

variable {σ : Type} [Prompter σ]

/-- What a check ends with: a path, `none` if the user quit, or a failure; and the prompter
behind it. -/
abbrev Result (σ : Type) := Except Failure (Option Path) × σ

/-- The absolute path, which an empty path has not. -/
def absolute (fs : FileSystem) (p : Path) : Except Failure Path :=
  match fs.absolute? p with
  | some p => .ok p
  | none => .error (.emptyPath p)

/-- The question for another path. -/
def pathQuestion (context hint : String) : Question where
  text := "Enter a new path or quit:"
  context := some context
  choices := [.quit]
  textHint := some hint
  colour := .red

/-- Shows that the run ends without a script. -/
def quit (s : σ) : Result σ :=
  (.ok none, Dialogue.afterAct s Selection.terminating)

/-- What is asked for while a path cannot be used. -/
structure Requirement where
  /-- The path can be used. -/
  holds : Path → Bool
  /-- What is told about a path that cannot be used. -/
  complaint : Path → String
  hint : String

/-- Asks for paths until one can be used, beginning with an absolute path. -/
def search (fs : FileSystem) (need : Requirement) (candidate : Path) (s : σ) : Result σ :=
  if need.holds candidate then (.ok (some candidate), s)
  else
    match _h : Prompting.ask (pathQuestion (need.complaint candidate) need.hint) s with
    | (.error e, s') => (.error (.noReplacement e), s')
    | (.ok (.choice _), s') => quit s'
    | (.ok (.text next), s') =>
      match absolute fs ⟨next⟩ with
      | .error f => (.error f, s')
      | .ok candidate => search fs need candidate s'
termination_by Prompter.supply s
decreasing_by exact Prompter.supply_lt _h

/-- Checks a path against a requirement. -/
def check (fs : FileSystem) (need : Requirement) (p : Path) (s : σ) : Result σ :=
  match absolute fs p with
  | .error f => (.error f, s)
  | .ok candidate => search fs need candidate s

/-- The entry definition must be a file. -/
def inputRequirement (fs : FileSystem) : Requirement :=
  ⟨fs.isFile, fun p => s!"The file {p.text} does not exist.", "input path"⟩

/-- The working directory must be a directory. -/
def directoryRequirement (fs : FileSystem) : Requirement :=
  ⟨fs.isDirectory, fun p => s!"The directory {p.text} does not exist.", "working directory"⟩

/-- Checks the path of the entry definition. -/
def checkInput (fs : FileSystem) (p : Path) (s : σ) : Result σ :=
  check fs (inputRequirement fs) p s

/-- Checks the path of the working directory. -/
def checkDirectory (fs : FileSystem) (p : Path) (s : σ) : Result σ :=
  check fs (directoryRequirement fs) p s

/-- The question whether a file is to be replaced. -/
def overwriteQuestion (p : Path) : Question where
  text := "Are you sure you want to overwrite it?"
  context := some s!"The file {p.text} already exists."
  choices := [.yes, .no, .quit]
  default := some .yes
  colour := .yellow

/-- The question for a path in place of one that is not to be replaced. -/
def replacementQuestion : Question :=
  pathQuestion "Choose a different output file." "output path"

/-- Asks for paths until nothing is at one or what is there may be replaced. -/
def searchOutput (fs : FileSystem) (candidate : Path) (s : σ) : Result σ :=
  if !fs.pathExists candidate then (.ok (some candidate), s)
  else
    match _h : Prompting.ask (overwriteQuestion candidate) s with
    | (.error e, s') => (.error (.noConsent candidate e), s')
    | (.ok (.choice .yes), s') => (.ok (some candidate), s')
    | (.ok (.choice .no), s') =>
      match _h' : Prompting.ask replacementQuestion s' with
      | (.error e, s') => (.error (.noReplacement e), s')
      | (.ok (.choice _), s') => quit s'
      | (.ok (.text next), s') =>
        match absolute fs ⟨next⟩ with
        | .error f => (.error f, s')
        | .ok candidate => searchOutput fs candidate s'
    | (.ok _, s') => quit s'
termination_by Prompter.supply s
decreasing_by exact Nat.lt_trans (Prompter.supply_lt _h') (Prompter.supply_lt _h)

/-- Checks the path of the script; with `force` an existing file is replaced without asking. -/
def checkOutput (fs : FileSystem) (force : Bool) (p : Path) (s : σ) : Result σ :=
  match absolute fs p with
  | .error f => (.error f, s)
  | .ok candidate => if force then (.ok (some candidate), s) else searchOutput fs candidate s

end Validation

end PipelineScript
