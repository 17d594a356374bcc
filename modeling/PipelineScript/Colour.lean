import PipelineScript.Yaml.Field

/-!
# Colours

Texts are coloured for a terminal by escape codes around them.
-/

namespace PipelineScript

/-- A foreground colour. -/
inductive Colour where
  | reset
  | black
  | red
  | green
  | yellow
  | blue
  | magenta
  | cyan
  | white
  deriving DecidableEq, Repr, Inhabited

namespace Colour

/-- The colours by their names. -/
def named : List (String × Colour) :=
  [("reset", reset), ("black", black), ("red", red), ("green", green), ("yellow", yellow),
    ("blue", blue), ("magenta", magenta), ("cyan", cyan), ("white", white)]

/-- The name of a colour. -/
def name : Colour → String
  | reset => "reset"
  | black => "black"
  | red => "red"
  | green => "green"
  | yellow => "yellow"
  | blue => "blue"
  | magenta => "magenta"
  | cyan => "cyan"
  | white => "white"

/-- The number of a colour in escape codes. -/
def number : Colour → Nat
  | reset => 0
  | black => 30
  | red => 31
  | green => 32
  | yellow => 33
  | blue => 34
  | magenta => 35
  | cyan => 36
  | white => 37

/-- The escape code that begins a colour. -/
def code (c : Colour) : String :=
  s!"\x1b[{c.number}m"

/-- The escape code that begins a colour, as a shell script spells it. -/
def shellCode (c : Colour) : String :=
  s!"\\033[{c.number}m"

/-- A text in a colour; resetting leaves it as it is. -/
def paint (c : Colour) (text : String) : String :=
  if c = reset then text else c.code ++ text ++ reset.code

/-- The colour that a text names. -/
def parse (text : String) : Except Yaml.Problem Colour :=
  Yaml.Document.readAs
    (fun d =>
      d.root.elim (.error (.misfit ⟨[], .noDocument⟩)) (Yaml.Document.readVariant named))
    text

end Colour

end PipelineScript
