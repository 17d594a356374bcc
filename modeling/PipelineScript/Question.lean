import PipelineScript.Colour

/-!
# Questions

A question offers choices, and may accept free text.  An answer is what is typed on a line: the
key of an offered choice, nothing for the default, or a text.
-/

namespace PipelineScript

/-- A fixed answer. -/
inductive Choice where
  | yes
  | no
  | acceptRemaining
  | skipRemaining
  | quit
  deriving DecidableEq, Repr, Inhabited

namespace Choice

/-- The choices in the order in which they are shown. -/
def all : List Choice := [yes, no, acceptRemaining, skipRemaining, quit]

/-- The key that is typed for a choice. -/
def key : Choice → Char
  | yes => 'y'
  | no => 'n'
  | acceptRemaining => 'a'
  | skipRemaining => 's'
  | quit => 'q'

/-- The words for a choice. -/
def label : Choice → String
  | yes => "Yes"
  | no => "No"
  | acceptRemaining => "Accept remaining"
  | skipRemaining => "Skip remaining"
  | quit => "Quit"

/-- A choice as it is shown. -/
def display (c : Choice) : String :=
  s!"{c.label}({c.key})"

end Choice

/-- An answer to a question. -/
inductive Response where
  | choice (c : Choice)
  | text (s : String)
  deriving DecidableEq, Repr, Inhabited

/-- A question. -/
structure Question where
  text : String
  /-- A line that is shown before the question. -/
  context : Option String := none
  choices : List Choice := [.yes, .no]
  /-- What a free text stands for, if one is accepted. -/
  textHint : Option String := none
  /-- The choice that an empty line stands for. -/
  default : Option Choice := none
  colour : Colour := .reset
  deriving DecidableEq, Repr

namespace Question

/-- The question accepts free text. -/
def acceptsText (q : Question) : Bool :=
  q.textHint.isSome

/-- The choices that are offered, in the order in which they are shown. -/
def offered (q : Question) : List Choice :=
  Choice.all.filter q.choices.contains

/-- The line that asks for the answer. -/
def answerLine (q : Question) : String :=
  let parts := q.offered.map Choice.display ++
    (q.textHint.elim [] fun hint => ["|", s!"<{hint}>"]) ++
    (q.default.elim [] fun c => [s!"[{c.key}]"])
  " ".intercalate parts ++ ": "

/-- The answer that a typed text is; upper and lower case of a key are the same. -/
def interpret (q : Question) (input : String) : Option Response :=
  if input.isEmpty then q.default.map .choice
  else
    match q.offered.find? (fun c => input.toList.map Char.toLower = [c.key]) with
    | some c => some (.choice c)
    | none => if q.acceptsText then some (.text input) else none

end Question

/-- The reason why a question got no answer. -/
inductive PromptError where
  /-- There is nobody to ask. -/
  | unavailable
  /-- The input ended before an answer was given. -/
  | closed
  /-- A line of the input is not text. -/
  | notText
  deriving DecidableEq, Repr, Inhabited

/-- What is told about a prompt without an answer. -/
def PromptError.message : PromptError → String
  | unavailable => "no interactive terminal available"
  | closed => "input closed before an answer was given"
  | notText => "terminal IO error: stream did not contain valid UTF-8"

end PipelineScript
