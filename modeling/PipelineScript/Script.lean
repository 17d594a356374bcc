import PipelineScript.Script.Header
import PipelineScript.Text.Line

/-!
# Scripts

A script is its header and a list of entries.  Each command is one call behind a comment with its
label.
-/

namespace PipelineScript

/-- A command with the label by which it is shown. -/
structure Command where
  label : String
  text : String
  deriving DecidableEq, Repr, Inhabited

namespace Script

/-- What is added to a script. -/
inductive Entry where
  | comment (text : String)
  | line (text : String)
  /-- The header of a job. -/
  | job (name : String)
  | command (c : Command)
  deriving DecidableEq, Repr, Inhabited

/-- The line of a comment. -/
def commentLine (text : String) : String :=
  "# " ++ Text.singleLine text

/-- The line that runs a command. -/
def callLine [Quoting] (c : Command) : String :=
  "call_wrapper " ++ word c.label ++ " " ++ word c.text

/-- The lines of an entry. -/
def Entry.lines [Quoting] : Entry → List String
  | comment text => [commentLine text]
  | line text => [text]
  | job name => [commentLine ("Job: " ++ name), ""]
  | command c => [commentLine c.label, callLine c, ""]

/-- The text of an entry. -/
def Entry.text [Quoting] (e : Entry) : String :=
  joinLines e.lines

/-- The command that an entry runs. -/
def Entry.command? : Entry → Option Command
  | command c => some c
  | _ => none

end Script

/-- A script under construction. -/
structure Script where
  options : Script.Options
  directory : String
  entries : List Script.Entry
  deriving DecidableEq, Repr, Inhabited

namespace Script

/-- The script without entries. -/
def start (options : Options) (directory : String) : Script :=
  ⟨options, directory, []⟩

/-- Adds an entry. -/
def add (s : Script) (e : Entry) : Script :=
  { s with entries := s.entries ++ [e] }

/-- The text behind the header. -/
def body [Quoting] (s : Script) : String :=
  String.join (s.entries.map Entry.text)

/-- The text so far. -/
def contents [Quoting] (s : Script) : String :=
  header s.options s.directory ++ s.body

/-- The commands of a script, in order. -/
def commands (s : Script) : List Command :=
  s.entries.filterMap Entry.command?

/-- The last line of a script. -/
def closing (o : Options) : String :=
  if o.summary then "print_summary 0\n" else ""

/-- The text of a finished script. -/
def finish [Quoting] (s : Script) : String :=
  s.contents ++ closing s.options

end Script

end PipelineScript
