import PipelineScript.CommandLine

/-!
# Completions

A completion script tells a shell the words that may follow the name of the program.
-/

namespace PipelineScript

/-- The name of the program. -/
def programName : String := "yaml-to-script"

/-- The version of the program. -/
def programVersion : String := "0.1.0"

namespace CommandLine

/-- The words that may follow the name of the program. -/
def completionWords : List String :=
  commandNames ++ generateGrammar.options.map fun p => "--" ++ p.name

/-- The completion script for a shell. -/
def completionScript (shell : Shell) : String :=
  let words := " ".intercalate completionWords
  match shell with
  | .bash => "complete -o default -W \"" ++ words ++ "\" " ++ programName ++ "\n"
  | .zsh =>
    "#compdef " ++ programName ++ "\n_alternative 'words:word:(" ++ words ++
      ")' 'files:file:_files'\n"
  | .fish => "complete -c " ++ programName ++ " -a '" ++ words ++ "'\n"
  | .powerShell =>
    "Register-ArgumentCompleter -Native -CommandName '" ++ programName ++ "' -ScriptBlock \x7b\n" ++
      "    param($word)\n    '" ++ words ++
      "'.Split(' ') | Where-Object \x7b $_ -like \"$word*\" \x7d\n\x7d\n"

end CommandLine

end PipelineScript
