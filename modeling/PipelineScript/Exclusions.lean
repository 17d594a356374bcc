import PipelineScript.Definition
import PipelineScript.Yaml.Field

/-!
# Exclusions

Commands are left out by their labels, templates by the references to them, in which slashes and
backslashes are not told apart.
-/

namespace PipelineScript

open Yaml (Document Problem Segment Tree)

/-- The commands and templates that are left out. -/
structure Exclusions where
  commands : List String
  templates : List String
  deriving DecidableEq, Repr, Inhabited

namespace Exclusions

/-- Nothing is left out. -/
def none : Exclusions := ⟨[], []⟩

/-- Leaves out the commands with a label. -/
def addCommand (e : Exclusions) (label : String) : Exclusions :=
  { e with commands := e.commands ++ [label] }

/-- Leaves out a template. -/
def addTemplate (e : Exclusions) (reference : String) : Exclusions :=
  { e with templates := e.templates ++ [reference] }

/-- Leaves out what either of two leaves out. -/
def append (e f : Exclusions) : Exclusions :=
  ⟨e.commands ++ f.commands, e.templates ++ f.templates⟩

instance : Append Exclusions := ⟨append⟩

/-- The commands with a label are left out. -/
def excludesCommand (e : Exclusions) (label : String) : Bool :=
  e.commands.contains label

/-- The template of a reference is left out. -/
def excludesTemplate (e : Exclusions) (reference : String) : Bool :=
  (e.templates.map normalizeReference).contains (normalizeReference reference)

/-- Nothing is left out. -/
def isEmpty (e : Exclusions) : Bool :=
  e.commands.isEmpty && e.templates.isEmpty

/-- Reads exclusions from a node of a document. -/
def read (d : Document) (path : List Segment) (t : Tree) : Except Problem Exclusions :=
  d.readRecord path "struct ExclusionRules" ["commands", "templates"] none
    (fun e name path t => do
      if name = "commands" then return { e with commands := ← d.readTexts path t }
      else return { e with templates := ← d.readTexts path t })
    t

/-- The exclusions that a text describes. -/
def parse (text : String) : Except Problem Exclusions :=
  Document.readAs (fun d => d.root.elim (.ok none) (read d [])) text

end Exclusions

end PipelineScript
