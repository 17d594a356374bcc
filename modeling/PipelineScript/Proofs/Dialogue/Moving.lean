import Mathlib.Data.List.Forall2
import Mathlib.Tactic.Common
import PipelineScript.Proofs.Selection.Offer

/-!
# Dialogues about other paths

Two dialogues may be the same except for the paths that they load and report, which are related in a
given way. No prompter is shown such a path, so it cannot tell these dialogues from each other: they
have the same answers, show the same, and end alike.
-/

namespace PipelineScript

/-- Two failures are the same, except for the path of a definition, which is related. -/
inductive GenerationError.Moved (R : Path → Path → Prop) : GenerationError → GenerationError → Prop
  | unreadable {path path' : Path} (h : R path path') (fault : FileFault) :
      Moved R (.unreadable path fault) (.unreadable path' fault)
  | malformed {path path' : Path} (h : R path path') (fault : Yaml.Fault) :
      Moved R (.malformed path fault) (.malformed path' fault)
  | missingJobs {path path' : Path} (h : R path path') :
      Moved R (.missingJobs path) (.missingJobs path')
  | nestedTooDeep {path path' : Path} (h : R path path') (limit : Nat) :
      Moved R (.nestedTooDeep path limit) (.nestedTooDeep path' limit)
  | missingParameter (parameter template : String) :
      Moved R (.missingParameter parameter template) (.missingParameter parameter template)
  | unanswered (e : PromptError) : Moved R (.unanswered e) (.unanswered e)

/-- Two results are the same, or they are failures that are the same except for related paths. -/
inductive ResultMoved (R : Path → Path → Prop) {α : Type} :
    Except GenerationError α → Except GenerationError α → Prop
  | ok (a : α) : ResultMoved R (.ok a) (.ok a)
  | error {e e' : GenerationError} (h : e.Moved R e') : ResultMoved R (.error e) (.error e')

theorem ResultMoved.map {R : Path → Path → Prop} {α β : Type}
    {x x' : Except GenerationError α} (h : ResultMoved R x x') (f : α → β) :
    ResultMoved R (x.map f) (x'.map f) := by
  cases h with
  | ok a => exact .ok (f a)
  | error h => exact .error h

/-- Two acts are the same, except for the path that is loaded, which is related. -/
inductive Act.Moved (R : Path → Path → Prop) : Act → Act → Prop
  | load {path path' : Path} (h : R path path') (depth : Nat) :
      Moved R (.load path depth) (.load path' depth)
  | job (name : String) : Moved R (.job name) (.job name)
  | emit (c : Command) : Moved R (.emit c) (.emit c)
  | notice (message : String) (colour : Colour) :
      Moved R (.notice message colour) (.notice message colour)

namespace Dialogue

variable {R : Path → Path → Prop} {α β σ : Type} {d d' : Dialogue α} {f f' : α → Dialogue β}

/-- Two events are the same, except for the path that is loaded, which is related. -/
inductive Event.Moved (R : Path → Path → Prop) : Event → Event → Prop
  | acted {a a' : Act} (h : a.Moved R a') : Moved R (.acted a) (.acted a')
  | asked (q : Question) (r : Except PromptError Response) : Moved R (.asked q r) (.asked q r)

/-- Two dialogues are the same, except for related paths in their acts and failures. -/
inductive Moved (R : Path → Path → Prop) : Dialogue α → Dialogue α → Prop
  | done (a : α) : Moved R (.done a) (.done a)
  | fail {e e' : GenerationError} (h : e.Moved R e') : Moved R (.fail e) (.fail e')
  | act {a a' : Act} {next next' : Unit → Dialogue α} (h : a.Moved R a')
      (hnext : Moved R (next ()) (next' ())) : Moved R (.act a next) (.act a' next')
  | ask (q : Question) {next next' : Except PromptError Response → Dialogue α}
      (hnext : ∀ r, Moved R (next r) (next' r)) : Moved R (.ask q next) (.ask q next')

namespace Moved

theorem perform {a a' : Act} (h : a.Moved R a') : Moved R (.perform a) (.perform a') :=
  .act h (.done ())

theorem bind (h : Moved R d d') (hf : ∀ a, Moved R (f a) (f' a)) :
    Moved R (d.bind f) (d'.bind f') := by
  induction h with
  | done a => exact hf a
  | fail h => exact .fail h
  | act h _ ih => exact .act h ih
  | ask q _ ih => exact .ask q ih

/-- Results that are the same, except for related paths, are gone on with alike. -/
theorem ofExcept_bind {x x' : Except GenerationError α} (h : ResultMoved R x x')
    (hf : ∀ a, x = .ok a → Moved R (f a) (f' a)) :
    Moved R ((Dialogue.ofExcept x).bind f) ((Dialogue.ofExcept x').bind f') := by
  cases h with
  | ok a => exact hf a rfl
  | error h => exact .fail h

variable [Prompting σ]

/-- No prompter is shown the path that is loaded. -/
theorem afterAct_eq {a a' : Act} (h : a.Moved R a') (s : σ) : afterAct s a = afterAct s a' := by
  cases h <;> rfl

/-- The runs of the two dialogues cannot be told apart but by related paths. -/
theorem run (h : Moved R d d') (s : σ) :
    ResultMoved R (d.run s).outcome (d'.run s).outcome ∧
      List.Forall₂ (Event.Moved R) (d.run s).events (d'.run s).events ∧
      (d.run s).prompter = (d'.run s).prompter := by
  induction h generalizing s with
  | done a => exact ⟨.ok a, .nil, rfl⟩
  | fail h => exact ⟨.error h, .nil, rfl⟩
  | act h _ ih =>
    obtain ⟨hresult, hevents, hprompter⟩ := ih (afterAct s _)
    rw [Dialogue.run, Dialogue.run, ← afterAct_eq h]
    exact ⟨hresult, .cons (.acted h) hevents, hprompter⟩
  | ask q _ ih =>
    obtain ⟨hresult, hevents, hprompter⟩ := ih _ _
    exact ⟨hresult, .cons (.asked q _) hevents, hprompter⟩

end Moved

theorem Event.Moved.entry?_eq {event event' : Event} (h : event.Moved R event') :
    event.entry? = event'.entry? := by
  cases h with
  | acted h => cases h <;> rfl
  | asked q r => rfl

/-- What is added to the script does not depend on the paths. -/
theorem entries_eq_of_moved {events events' : List Event}
    (h : List.Forall₂ (Event.Moved R) events events') :
    events.filterMap Event.entry? = events'.filterMap Event.entry? := by
  induction h with
  | nil => rfl
  | cons h _ ih => rw [List.filterMap_cons, List.filterMap_cons, h.entry?_eq, ih]

end Dialogue

namespace Selection

open Dialogue

variable {R : Path → Path → Prop} {α : Type} {d d' : Dialogue α}

/-- What is selected of the two dialogues is the same, except for related paths. -/
theorem moved_select (h : Moved R d d') (interactive : Bool) (s : Session) :
    Moved R (select interactive s d) (select interactive s d') := by
  induction h generalizing s with
  | done a => exact .done _
  | fail h => exact .fail h
  | ask q _ ih => exact .ask q fun r => ih r s
  | act h _ ih =>
    cases h with
    | load h depth => exact .act (.load h depth) (ih s)
    | job name => exact .act (.job name) (ih s)
    | notice message colour =>
      rw [select_notice, select_notice]
      split_ifs
      · exact ih s
      · exact .act (.notice message colour) (ih s)
    | emit c =>
      rw [select_emit, select_emit]
      split_ifs
      · exact ih s
      · refine .ask _ fun r => ?_
        rcases r with e | r
        · exact .fail (.unanswered e)
        rw [answered, answered]
        cases choiceOf r with
        | yes => exact .act (.emit c) (ih _)
        | no => exact ih _
        | acceptRemaining => exact .act (.notice _ _) (.act (.emit c) (ih _))
        | skipRemaining => exact .act (.notice _ _) (ih _)
        | quit => exact .act (.notice _ _) (.done _)
      · exact .act (.emit c) (ih s)

end Selection

end PipelineScript
