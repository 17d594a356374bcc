import Mathlib.Tactic.Common
import PipelineScript.Proofs.Dialogue.Performance
import PipelineScript.Proofs.Selection.Offer

/-!
# Extensions of dialogues

A dialogue that is cut off where a template is nested too deep may be extended: the extension does
and asks the same until then, and what it does in place of that failure is left open. A run that is
not cut off cannot tell the extension from the dialogue.
-/

namespace PipelineScript

namespace Dialogue

variable {α β σ : Type} {d d' : Dialogue α} {f f' : α → Dialogue β}

/-- The second dialogue is the first one, except that it may go on where the first one fails with a
template that is nested too deep. -/
inductive Extends : Dialogue α → Dialogue α → Prop
  | done (a : α) : Extends (.done a) (.done a)
  | fail (e : GenerationError) : Extends (.fail e) (.fail e)
  | beyond (template : Path) (limit : Nat) (d : Dialogue α) :
      Extends (.fail (.nestedTooDeep template limit)) d
  | act (a : Act) {next next' : Unit → Dialogue α} (h : Extends (next ()) (next' ())) :
      Extends (.act a next) (.act a next')
  | ask (q : Question) {next next' : Except PromptError Response → Dialogue α}
      (h : ∀ r, Extends (next r) (next' r)) : Extends (.ask q next) (.ask q next')

namespace Extends

theorem refl (d : Dialogue α) : Extends d d := by
  induction d with
  | done a => exact .done a
  | fail e => exact .fail e
  | act a next ih => exact .act a (ih ())
  | ask q next ih => exact .ask q ih

theorem bind (h : Extends d d') (hf : ∀ a, Extends (f a) (f' a)) :
    Extends (d.bind f) (d'.bind f') := by
  induction h with
  | done a => exact hf a
  | fail e => exact .fail e
  | beyond template limit d => exact .beyond template limit _
  | act a h ih => exact .act a ih
  | ask q h ih => exact .ask q ih

variable [Prompting σ]

/-- What happens until a run is cut off happens in the extension too. -/
theorem events_prefix (h : Extends d d') (s : σ) : (d.run s).events <+: (d'.run s).events := by
  induction h generalizing s with
  | done a => exact List.prefix_rfl
  | fail e => exact List.prefix_rfl
  | beyond template limit d => exact List.nil_prefix
  | act a h ih => exact (List.prefix_cons_inj _).2 (ih (afterAct s a))
  | ask q h ih => exact (List.prefix_cons_inj _).2 (ih _ _)

/-- A run that is not cut off is the run of the extension. -/
theorem run_eq (h : Extends d d') {s : σ}
    (hrun : ∀ template limit, (d.run s).outcome ≠ .error (.nestedTooDeep template limit)) :
    d'.run s = d.run s := by
  induction h generalizing s with
  | done a => rfl
  | fail e => rfl
  | beyond template limit d => exact absurd rfl (hrun template limit)
  | act a h ih => rw [run, run, ih hrun]
  | ask q h ih => rw [run, run, ih _ hrun]

end Extends

end Dialogue

namespace Selection

open Dialogue

variable {α : Type} {d d' : Dialogue α}

/-- A selection of an extension extends the selection. -/
theorem extends_select (h : Extends d d') (interactive : Bool) (s : Session) :
    Extends (select interactive s d) (select interactive s d') := by
  induction h generalizing s with
  | done a => exact .refl _
  | fail e => exact .fail e
  | beyond template limit d => exact .beyond template limit _
  | ask q h ih => exact .ask q fun r => ih r s
  | act a h ih =>
    cases a with
    | load path depth => exact .act _ (ih s)
    | job name => exact .act _ (ih s)
    | notice message colour =>
      rw [select_notice, select_notice]
      split_ifs
      · exact ih s
      · exact .act _ (ih s)
    | emit c =>
      rw [select_emit, select_emit]
      split_ifs
      · exact ih s
      · refine .ask _ fun r => ?_
        rcases r with e | r
        · exact .fail _
        rw [answered, answered]
        cases choiceOf r with
        | yes => exact .act _ (ih _)
        | no => exact ih _
        | acceptRemaining => exact .act _ (.act _ (ih _))
        | skipRemaining => exact .act _ (ih _)
        | quit => exact .refl _
      · exact .act _ (ih s)

end Selection

end PipelineScript
