import PipelineScript.Program
import PipelineScript.Terminal

/-!
# Running the program

The program runs on what is known of the files and of the input.  When it needs more, that is
fetched, and it runs again from the start; only new output is shown.
-/

namespace PipelineScript

namespace Outside

/-- The entry at a path from the root. -/
def probe (path : String) : IO (Option Entry) := do
  try
    let real ← IO.FS.realPath path
    if ← real.isDir then return some .directory
    let bytes ← IO.FS.readBinFile real
    return some (.file ⟨String.fromUTF8? bytes, false⟩)
  catch _ => return none

/-- The locations that are passed through on the way along segments. -/
def passed (here : Location) : List String → List Location
  | [] => [here]
  | s :: segments =>
    let next := if Path.isTrivial s then here
      else if s = ".." then here.dropLast else here ++ [s]
    here :: passed next segments

/-- The locations that a path passes through. -/
def locations (current : Location) (p : Path) : List Location :=
  passed (if p.isAbsolute then [] else current) p.segments

/-- The file system as far as some paths show it. -/
def snapshot (current : Location) (paths : List Path) : IO FileSystem := do
  let places := ([] :: locations [] ⟨"/" ++ "/".intercalate current⟩ ++
    paths.flatMap (locations current)).eraseDups
  let known ← places.mapM fun l => do return (l, ← probe ("/" ++ "/".intercalate l))
  return ⟨current, fun l => (known.lookup l).bind id⟩

/-- The paths that an invocation names. -/
def namedPaths : Invocation → List Path
  | .generate r config _ => r.path :: r.output :: r.workingDirectory :: config.toList
  | .completions _ output => output.toList

/-- The lines of an input as paths. -/
def typedPaths (input : List UInt8) : List Path :=
  match String.fromUTF8? ⟨input.toArray⟩ with
  | some text => (Text.lines text.toList).map fun l => ⟨Text.trim (String.ofList l)⟩
  | none => []

/-- The input ended before a question was answered. -/
def needsInput : Except Failure String → Bool
  | .error (.noReplacement .closed) => true
  | .error (.noConsent _ .closed) => true
  | .error (.generation _ (.unanswered .closed)) => true
  | _ => false

/-- Writes the file that a run has written. -/
def store {σ : Type} (e : Ending σ) : IO Unit := do
  match e.written with
  | none => return
  | some path =>
    match e.fileSystem.find? path with
    | some (.file f) =>
      IO.FS.writeFile path.text (f.text.getD "")
      if f.executable then
        let reading : IO.AccessRight := ⟨true, false, false⟩
        IO.setAccessRights path.text ⟨⟨true, true, true⟩, reading, reading⟩
    | _ => return

/-- Runs on a growing snapshot until no template outside it is loaded. -/
partial def settle {σ : Type} [Prompter σ] (i : Invocation) (hasTerminal : Bool)
    (current : Location) (s : σ) (paths : List Path) : IO (Ending σ) := do
  let e := Program.run i hasTerminal (← snapshot current paths) s
  let new := e.loaded.filter (!paths.contains ·)
  if new.isEmpty then return e else settle i hasTerminal current s (paths ++ new.eraseDups)

/-- Runs at a terminal; the first `shown` characters of the output have been shown. -/
partial def converse (i : Invocation) (current : Location) (colours : Bool) (input : List UInt8)
    (shown : Nat) : IO (Ending Terminal) := do
  let terminal : Terminal := ⟨input, "", colours⟩
  let e ← settle i true current terminal (namedPaths i ++ typedPaths input)
  if input.isEmpty then IO.eprint (Program.warningText e.warnings)
  IO.eprint (String.ofList (e.prompter.output.toList.drop shown))
  if needsInput e.result then
    let line ← (← IO.getStdin).getLine
    if !line.isEmpty then
      return ← converse i current colours (input ++ line.toUTF8.toList) e.prompter.output.length
  return e

/-- Shows what a run ends with. -/
def finish {σ : Type} (e : Ending σ) : IO UInt32 := do
  store e
  match e.result with
  | .ok text => IO.print text
  | .error f =>
    IO.eprint (Program.failureText (← IO.getEnv "YAML_TO_SCRIPT_VERBOSE").isSome f)
  return (Program.exitCode e.result).toUInt32

/-- Does what the command line asks for. -/
def execute (i : Invocation) : IO UInt32 := do
  let current := (Path.segments ⟨toString (← IO.currentDir)⟩).filter (!Path.isTrivial ·)
  if ← (← IO.getStdin).isTty then
    let colours := (← IO.getEnv "NO_COLOR").isNone && (← (← IO.getStderr).isTty)
    finish (← converse i current colours [] 0)
  else
    let e ← settle i false current (⟨""⟩ : Unattended) (namedPaths i)
    IO.eprint (Program.warningText e.warnings ++ e.prompter.shown)
    finish e

end Outside

end PipelineScript

open PipelineScript in
/-- The program. -/
def main (arguments : List String) : IO UInt32 := do
  match CommandLine.parse arguments with
  | .ok i => Outside.execute i
  | .error .version => do
    IO.print Program.versionLine
    return 0
  | .error .help => do
    IO.println ("Usage: " ++ programName ++ " <COMMAND>\n\nCommands: " ++
      ", ".intercalate CommandLine.commandNames)
    return 0
  | .error r => do
    IO.eprintln ("error: invalid arguments\n\nUsage: " ++ programName ++ " <COMMAND>")
    return r.exitCode.toUInt32
