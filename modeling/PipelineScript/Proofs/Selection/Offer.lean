import PipelineScript.Selection

/-!
# A command that is offered to a selection

While nothing has been decided, an interactive selection asks about a command that is offered to
it, and the answer decides about the command and perhaps about the rest. Otherwise the command is
let through or passed over in silence.
-/

namespace PipelineScript

namespace Selection

open Dialogue

variable {α : Type}

/-- How an interactive selection goes on behind the question about a command. -/
def answered (interactive : Bool) (c : Command) (next : Unit → Dialogue α) :
    Except PromptError Response → Dialogue Flow
  | .error e => .fail (.unanswered e)
  | .ok r =>
    match choiceOf r with
    | .yes => .act (.emit c) fun _ => select interactive .undecided (next ())
    | .no => select interactive .undecided (next ())
    | .acceptRemaining =>
      .act (standing .acceptAll) fun _ =>
        .act (.emit c) fun _ => select interactive .acceptAll (next ())
    | .skipRemaining => .act (standing .skipAll) fun _ => select interactive .skipAll (next ())
    | .quit => .act terminating fun _ => .done .terminated

theorem select_emit (interactive : Bool) (s : Session) (c : Command) (next : Unit → Dialogue α) :
    select interactive s (.act (.emit c) next) =
      if s.skipsAll then select interactive s (next ())
      else if interactive && s.isUndecided then .ask (question c) (answered interactive c next)
      else .act (.emit c) fun _ => select interactive s (next ()) := by
  cases interactive with
  | false => cases s <;> rfl
  | true =>
    cases s with
    | acceptAll => rfl
    | skipAll => rfl
    | undecided =>
      refine congrArg (Dialogue.ask (question c)) (funext fun r => ?_)
      rcases r with e | r
      · rfl
      · dsimp only [answered]
        generalize choiceOf r = choice
        cases choice <;> rfl

theorem select_notice (interactive : Bool) (s : Session) (message : String) (colour : Colour)
    (next : Unit → Dialogue α) :
    select interactive s (.act (.notice message colour) next) =
      if s.skipsAll then select interactive s (next ())
      else .act (.notice message colour) fun _ => select interactive s (next ()) := rfl

end Selection

end PipelineScript
