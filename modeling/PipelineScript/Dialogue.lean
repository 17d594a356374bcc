import PipelineScript.GenerationError
import PipelineScript.Prompter
import PipelineScript.Script

/-!
# Dialogues

A dialogue is what a run does and asks, before anybody answers: it ends with a result or a failure,
does something, or asks a question and goes on with the answer.  A prompter turns a dialogue into
a run.
-/

namespace PipelineScript

/-- Something that a run does. -/
inductive Act where
  /-- Loads the definition of a template that is nested `depth` deep. -/
  | load (path : Path) (depth : Nat)
  /-- Begins the section of a job. -/
  | job (name : String)
  /-- Adds a command to the script. -/
  | emit (c : Command)
  /-- Shows a notice. -/
  | notice (message : String) (colour : Colour)
  deriving DecidableEq, Repr

/-- What a run does and asks, and what it ends with.  What follows an act is worked out only when
the run gets there, since a run may end long before its dialogue does. -/
inductive Dialogue (α : Type) where
  | done (a : α)
  | fail (e : GenerationError)
  | act (a : Act) (next : Unit → Dialogue α)
  | ask (q : Question) (next : Except PromptError Response → Dialogue α)

namespace Dialogue

variable {α β σ : Type}

/-- Goes on with the result of a dialogue. -/
def bind : Dialogue α → (α → Dialogue β) → Dialogue β
  | done a, f => f a
  | fail e, _ => fail e
  | act a next, f => act a fun _ => bind (next ()) f
  | ask q next, f => ask q fun r => bind (next r) f

instance : Monad Dialogue where
  pure := done
  bind := bind

/-- The dialogue that does one thing. -/
def perform (a : Act) : Dialogue Unit :=
  act a done

/-- The dialogue that asks one question; a question without an answer is a failure. -/
def inquire (q : Question) : Dialogue Response :=
  ask q fun
    | .ok r => done r
    | .error e => fail (.unanswered e)

/-- The dialogue that ends at once. -/
def ofExcept : Except GenerationError α → Dialogue α
  | .ok a => done a
  | .error e => fail e

/-- One thing that happened in a run. -/
inductive Event where
  | acted (a : Act)
  | asked (q : Question) (r : Except PromptError Response)

/-- A run of a dialogue: what it ended with, what happened, and the prompter behind it. -/
structure Run (α σ : Type) where
  outcome : Except GenerationError α
  events : List Event
  prompter : σ

/-- The prompter after an act. -/
def afterAct [Prompting σ] (s : σ) : Act → σ
  | .notice message colour => Prompting.notify message colour s
  | _ => s

/-- The run of a dialogue with a prompter. -/
def run [Prompting σ] : Dialogue α → σ → Run α σ
  | done a, s => ⟨.ok a, [], s⟩
  | fail e, s => ⟨.error e, [], s⟩
  | act a next, s =>
    let r := run (next ()) (afterAct s a)
    { r with events := .acted a :: r.events }
  | ask q next, s =>
    let answer := Prompting.ask q s
    let r := run (next answer.1) answer.2
    { r with events := .asked q answer.1 :: r.events }

/-- What an event adds to the script. -/
def Event.entry? : Event → Option Script.Entry
  | acted (.job name) => some (.job name)
  | acted (.emit c) => some (.command c)
  | _ => none

/-- The template that is loaded in an event. -/
def Event.loaded? : Event → Option Path
  | acted (.load path _) => some path
  | _ => none

/-- What a run adds to the script. -/
def Run.entries (r : Run α σ) : List Script.Entry :=
  r.events.filterMap Event.entry?

end Dialogue

end PipelineScript
