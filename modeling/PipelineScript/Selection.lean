import PipelineScript.Dialogue

/-!
# Selection

A selection turns a dialogue that offers commands into one that keeps some of them.  While nothing
has been decided for the rest, an interactive run asks about each command; once the rest is skipped,
neither commands nor warnings are let through.  An expansion with its selection is what the expander
does, which takes its decisions on the way.
-/

namespace PipelineScript

/-- What has been decided about the commands that remain. -/
inductive Session where
  | undecided
  | acceptAll
  | skipAll
  deriving DecidableEq, Repr, Inhabited

/-- What happens to a command that was asked about. -/
inductive Decision where
  | keep
  | drop
  | quit
  deriving DecidableEq, Repr, Inhabited

/-- What a choice decides about the command that was asked about. -/
def Choice.decision : Choice → Decision
  | .yes | .acceptRemaining => .keep
  | .no | .skipRemaining => .drop
  | .quit => .quit

namespace Session

/-- Every command is asked about. -/
def isUndecided (s : Session) : Bool := s == undecided

/-- Every command that remains is kept. -/
def acceptsAll (s : Session) : Bool := s == acceptAll

/-- Every command that remains is dropped. -/
def skipsAll (s : Session) : Bool := s == skipAll

/-- What is decided after a choice; a decision stays. -/
def after (s : Session) (c : Choice) : Session :=
  match s, c with
  | undecided, .acceptRemaining => acceptAll
  | undecided, .skipRemaining => skipAll
  | s, _ => s

end Session

/-- How the expansion of steps ends without a failure. -/
inductive Flow where
  | continued (s : Session)
  /-- The user quit. -/
  | terminated
  deriving DecidableEq, Repr, Inhabited

namespace Selection

/-- The question about a command. -/
def question (c : Command) : Question where
  text := s!"Add '{c.label}' to your script?"
  context := some s!"Processing command: {c.label}:\n{c.text}\n"
  choices := Choice.all
  default := some .yes

/-- The choice that an answer is. -/
def choiceOf : Response → Choice
  | .choice c => c
  | .text _ => .yes

/-- The notice that the run ends without a script. -/
def terminating : Act :=
  .notice "Terminating script generation." .reset

/-- The notice about a decision for all commands that remain. -/
def standing (s : Session) : Act :=
  .notice
    (if s.acceptsAll then "Accepting all subsequent commands.\n"
      else "Skipping all subsequent commands.\n")
    .yellow

/-- Lets through what is kept of a dialogue. -/
def select {α : Type} (interactive : Bool) : Session → Dialogue α → Dialogue Flow
  | s, .done _ => .done (.continued s)
  | _, .fail e => .fail e
  | s, .ask q next => .ask q fun r => select interactive s (next r)
  | s, .act (.notice message colour) next =>
    if s.skipsAll then select interactive s (next ())
    else .act (.notice message colour) fun _ => select interactive s (next ())
  | s, .act (.emit c) next =>
    if s.skipsAll then select interactive s (next ())
    else if interactive && s.isUndecided then
      .ask (question c) fun
        | .error e => .fail (.unanswered e)
        | .ok r =>
          let choice := choiceOf r
          let s' := s.after choice
          let behind (_ : Unit) : Dialogue Flow :=
            match choice.decision with
            | .keep => .act (.emit c) fun _ => select interactive s' (next ())
            | .drop => select interactive s' (next ())
            | .quit => .act terminating fun _ => .done .terminated
          if s' = s then behind () else .act (standing s') behind
    else .act (.emit c) fun _ => select interactive s (next ())
  | s, .act a next => .act a fun _ => select interactive s (next ())

end Selection

end PipelineScript
