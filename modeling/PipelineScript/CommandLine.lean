import PipelineScript.CommandLine.Arguments
import PipelineScript.Settings

/-!
# The command line

The program has a command that generates a script and one that prints completions for a shell.
-/

namespace PipelineScript

/-- A shell for which there are completions. -/
inductive Shell where
  | bash
  | zsh
  | fish
  | powerShell
  deriving DecidableEq, Repr, Inhabited

namespace Shell

/-- The shells by their names. -/
def named : List (String × Shell) :=
  [("bash", bash), ("zsh", zsh), ("fish", fish), ("power-shell", powerShell)]

end Shell

/-- What the command line asks for. -/
inductive Invocation where
  | generate (request : Request) (config : Option Path) (verbosity : Nat)
  | completions (shell : Shell) (output : Option Path)
  deriving Repr

namespace CommandLine

/-- A path is not empty. -/
def pathRole : Role := .value (!·.isEmpty)

/-- The option that shows the help. -/
def helpOption : Parameter := ⟨"help", some 'h', .help⟩

/-- The arguments of the command that generates a script. -/
def generateGrammar : Grammar where
  options :=
    [⟨"path", some 'p', pathRole⟩, ⟨"output", some 'o', pathRole⟩,
      ⟨"defaultworkingdir", some 'd', pathRole⟩, ⟨"interactive", some 'i', .flag⟩,
      ⟨"no-errorcheck", none, .flag⟩, ⟨"no-echo", none, .flag⟩, ⟨"no-summary", none, .flag⟩,
      ⟨"config", some 'c', pathRole⟩, ⟨"exclude-command", none, .values⟩,
      ⟨"exclude-template", none, .values⟩, ⟨"force", some 'f', .flag⟩,
      ⟨"verbose", some 'v', .count⟩, helpOption]
  operand := none

/-- The arguments of the command that prints completions. -/
def completionsGrammar : Grammar where
  options := [⟨"output", some 'o', pathRole⟩, helpOption]
  operand := some ⟨"shell", none, .value fun v => (Shell.named.lookup v).isSome⟩

/-- What the arguments of the command that generates a script ask for. -/
def generateInvocation (arguments : List String) : Except Rejection Invocation := do
  let m ← generateGrammar.read arguments
  let path ← m.required "path"
  let output ← m.required "output"
  let workingDirectory ← m.required "defaultworkingdir"
  let request : Request :=
    { path := ⟨path⟩, output := ⟨output⟩, workingDirectory := ⟨workingDirectory⟩
      interactive := m.has "interactive"
      script := ⟨!m.has "no-echo", !m.has "no-errorcheck", !m.has "no-summary"⟩
      exclusions := ⟨m.values "exclude-command", m.values "exclude-template"⟩
      force := m.has "force" }
  return .generate request ((m.value? "config").map Path.mk) (m.values "verbose").length

/-- What the arguments of the command that prints completions ask for. -/
def completionsInvocation (arguments : List String) : Except Rejection Invocation := do
  let m ← completionsGrammar.read arguments
  match Shell.named.lookup (← m.required "shell") with
  | some shell => return .completions shell ((m.value? "output").map Path.mk)
  | none => throw .invalidValue

/-- The names of the commands, that of the help among them. -/
def commandNames : List String := ["generate", "completions", "help"]

/-- What is shown for a command whose help is asked for. -/
def helpRejection : List String → Rejection
  | [] => .help
  | [command] => if command ∈ commandNames then .help else .unknownCommand
  | _ => .unknownCommand

/-- The rejection of options in front of a command. -/
def optionRejection (cs : List Char) : Rejection :=
  match cs with
  | '-' :: name =>
    let known (text : String) := name.takeWhile (· ≠ '=') = text.toList
    if known "help" || known "version" then
      if name.contains '=' then .unexpectedValue
      else if known "help" then .help else .version
    else .unknownArgument
  | 'h' :: _ => .help
  | 'V' :: _ => .version
  | _ => .unknownArgument

/-- What the arguments of the program ask for. -/
def parse : List String → Except Rejection Invocation
  | [] => .error .noCommand
  | ["--"] => .error .noCommand
  | "--" :: a :: _ =>
    .error (if a ∈ commandNames then .unknownArgument else .unknownCommand)
  | a :: rest =>
    if a = "generate" then generateInvocation rest
    else if a = "completions" then completionsInvocation rest
    else if a = "help" then .error (helpRejection rest)
    else
      match a.toList with
      | '-' :: c :: cs => .error (optionRejection (c :: cs))
      | _ => .error .unknownCommand

end CommandLine

end PipelineScript
