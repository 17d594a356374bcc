import Mathlib.Tactic.Common
import PipelineScript.Build
import PipelineScript.Proofs.Dialogue.Performance

/-!
# The questions of an expansion

An expansion asks for nothing but the values of parameters, and it goes on only behind a text. So
nobody is asked in an expansion that succeeds with nobody to ask: what it does is a list of acts.
-/

namespace PipelineScript

namespace Expansion

open Dialogue

variable {α β : Type}

/-- The failure behind a question for a value that is not answered with a text. -/
def withoutValue (parameter template : String) : Except PromptError Response → GenerationError
  | .ok _ => .missingParameter parameter template
  | .error .unavailable => .missingParameter parameter template
  | .error e => .unanswered e

/-- The dialogue asks for values of parameters only, and it fails where no text is given. -/
inductive AsksForValues : Dialogue α → Prop
  | done (a : α) : AsksForValues (.done a)
  | fail (e : GenerationError) : AsksForValues (.fail e)
  | act (a : Act) {next : Unit → Dialogue α} (h : AsksForValues (next ())) :
      AsksForValues (.act a next)
  | ask (parameter template : String) {next : Except PromptError Response → Dialogue α}
      (hvalue : ∀ value, AsksForValues (next (.ok (.text value))))
      (hnone : ∀ r, (∀ value, r ≠ .ok (.text value)) →
        next r = .fail (withoutValue parameter template r)) :
      AsksForValues (.ask (parameterQuestion parameter template) next)

namespace AsksForValues

variable {d : Dialogue α} {f : α → Dialogue β}

theorem bind (h : AsksForValues d) (hf : ∀ a, AsksForValues (f a)) : AsksForValues (d.bind f) := by
  induction h with
  | done a => exact hf a
  | fail e => exact .fail e
  | act a h ih => exact .act a ih
  | ask parameter template hvalue hnone ih =>
    refine .ask parameter template ih fun r hr => ?_
    rw [hnone r hr]
    rfl

theorem perform (a : Act) : AsksForValues (.perform a) :=
  .act a (.done ())

theorem ofExcept (r : Except GenerationError α) : AsksForValues (.ofExcept r) := by
  cases r with
  | ok a => exact .done a
  | error e => exact .fail e

theorem of_act {a : Act} {next : Unit → Dialogue α} (h : AsksForValues (.act a next)) :
    AsksForValues (next ()) := by
  cases h with
  | act _ h => exact h

/-- Each question is for the value of a parameter, and so are those behind it. -/
theorem of_ask {q : Question} {next : Except PromptError Response → Dialogue α}
    (h : AsksForValues (.ask q next)) :
    (∃ parameter template, q = parameterQuestion parameter template) ∧
      ∀ r, AsksForValues (next r) := by
  cases h with
  | ask parameter template hvalue hnone =>
    refine ⟨⟨parameter, template, rfl⟩, fun r => ?_⟩
    by_cases htext : ∃ value, r = .ok (.text value)
    · obtain ⟨value, rfl⟩ := htext
      exact hvalue value
    · rw [hnone r fun value hvalue => htext ⟨value, hvalue⟩]
      exact .fail _

/-- Each question of a run is for the value of a parameter. -/
theorem question_eq {σ : Type} [Prompting σ] (h : AsksForValues d) {s : σ} {q : Question}
    {r : Except PromptError Response} (hq : .asked q r ∈ (d.run s).events) :
    ∃ parameter template, q = parameterQuestion parameter template := by
  induction d generalizing s with
  | done a => cases hq
  | fail e => cases hq
  | act a next ih =>
    rcases List.mem_cons.1 hq with heq | hq
    · cases heq
    · exact ih () h.of_act hq
  | ask q' next ih =>
    rcases List.mem_cons.1 hq with heq | hq
    · cases heq
      exact h.of_ask.1
    · exact ih _ (h.of_ask.2 _) hq

/-- What succeeds with nobody to ask asks nothing. -/
theorem performs_of_run (h : AsksForValues d) {u : Unattended} {a : α}
    (hok : (d.run u).outcome = .ok a) : ∃ acts, Performs d acts (.ok a) := by
  induction h generalizing u with
  | done b =>
    cases hok
    exact ⟨[], .done a⟩
  | fail e => cases hok
  | act b h ih =>
    obtain ⟨acts, hacts⟩ := ih (u := afterAct u b) hok
    exact ⟨b :: acts, .act b hacts⟩
  | @ask parameter template next hvalue hnone ih =>
    have hfail := hnone (.error .unavailable) fun _ h => nomatch h
    have hrun : ((next (.error .unavailable)).run u).outcome = .ok a := hok
    rw [hfail] at hrun
    cases hrun

end AsksForValues

/-- A request for a value is one question, and it comes to the text that is answered or fails. -/
theorem exists_requestParameter_eq (parameter template : String) :
    ∃ next, requestParameter parameter template = .ask (parameterQuestion parameter template) next ∧
      (∀ value, next (.ok (.text value)) = .done value) ∧
      ∀ r, (∀ value, r ≠ .ok (.text value)) →
        next r = .fail (withoutValue parameter template r) := by
  refine ⟨_, rfl, fun value => rfl, fun r hr => ?_⟩
  match r with
  | .ok (.text value) => exact absurd rfl (hr value)
  | .ok (.choice c) => rfl
  | .error .unavailable => rfl
  | .error .closed => rfl
  | .error .notText => rfl

variable (s : Settings) (library : Library)

theorem asksForValues_bindParameters (template : String) (names : List String) (b : Bindings) :
    AsksForValues (bindParameters template names b) := by
  induction names generalizing b with
  | nil => exact .done b
  | cons name names ih =>
    rw [bindParameters]
    split_ifs with hbound
    · exact ih b
    · obtain ⟨next, hnext, htext, hnone⟩ := exists_requestParameter_eq name template
      refine .bind ?_ fun value => ih (b.insert (name, value))
      rw [hnext]
      exact .ask name template (fun value => htext value ▸ .done value) hnone

theorem asksForValues_command (b : Bindings) (c : StepCommand) :
    AsksForValues (command s b c) := by
  rw [command]
  split
  · exact .perform _
  · split_ifs
    · exact .done ()
    · exact .perform _

theorem asksForValues_stepsWith {nested : Path → Bindings → Dialogue Unit}
    (hnested : ∀ path b, AsksForValues (nested path b)) (scope : Scope) (l : List Step) :
    AsksForValues (stepsWith s nested scope l) := by
  induction l with
  | nil => exact .done ()
  | cons step rest ih =>
    refine .bind ?_ fun _ => .bind ?_ fun _ => ih
    · cases step.template with
      | none => exact .done ()
      | some r =>
        rw [Option.elim_some, reference]
        split_ifs
        · exact .done ()
        · exact hnested _ _
    · cases step.command with
      | none => exact .done ()
      | some c => exact asksForValues_command s scope.bindings c

theorem asksForValues_templateFrom (levels depth : Nat) (path : Path) (b : Bindings) :
    AsksForValues (templateFrom s library levels depth path b) := by
  induction levels generalizing depth path b with
  | zero => exact .fail _
  | succ levels ih =>
    refine .bind (.perform _) fun _ => .bind (.ofExcept _) fun n => ?_
    refine .bind (asksForValues_bindParameters _ _ b) fun b' => ?_
    exact asksForValues_stepsWith s (fun path' b'' => ih (depth + 1) path' b'') _ _

theorem asksForValues_steps (scope : Scope) (l : List Step) :
    AsksForValues (steps s library scope l) :=
  asksForValues_stepsWith s (fun _ _ => asksForValues_templateFrom s library _ _ _ _) scope l

theorem asksForValues_jobs (base : Path) (js : List Job) :
    AsksForValues (jobs s library base js) := by
  induction js with
  | nil => exact .done ()
  | cons j js ih =>
    rw [jobs]
    split_ifs
    · exact .bind (.perform _) fun _ => .bind (asksForValues_steps s library _ _) fun _ => ih
    · exact ih

/-- The expansion of a pipeline asks for values of parameters only. -/
theorem asksForValues_pipeline (p : Pipeline) (base : Path) :
    AsksForValues (pipeline s library p base) :=
  asksForValues_jobs s library base p.jobs

end Expansion

end PipelineScript
