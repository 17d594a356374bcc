import Mathlib.Tactic.Common
import PipelineScript.Proofs.Dialogue.Possibility

/-!
# Leaving out acts

A dialogue from which some acts are left out asks the same and ends in the same way under the same
answers. Whether it gets the same answers is another matter, since a prompter may take note of what
it is shown: a run is the same but for the acts that are left out if these make no difference to
the part of the prompter that decides its answers.
-/

namespace PipelineScript

namespace Dialogue

variable {α β σ τ : Type} {keep : Act → Bool} {P : Act → Prop} {d : Dialogue α}

/-- The dialogue with the acts that are kept, and without the others. -/
def sift (keep : Act → Bool) : Dialogue α → Dialogue α
  | done a => done a
  | fail e => fail e
  | act a next => if keep a then act a fun _ => sift keep (next ()) else sift keep (next ())
  | ask q next => ask q fun r => sift keep (next r)

/-- The events that are left when acts are left out. -/
def Event.isKept (keep : Act → Bool) : Event → Bool
  | acted a => keep a
  | asked _ _ => true

theorem sift_bind (d : Dialogue α) (f : α → Dialogue β) :
    (d.bind f).sift keep = (d.sift keep).bind fun a => (f a).sift keep := by
  induction d with
  | done a => rfl
  | fail e => rfl
  | act a next ih =>
    rw [bind, sift, sift, ih]
    split_ifs <;> rfl
  | ask q next ih =>
    simp only [bind, sift, ih]

/-- If every act is kept, nothing changes. -/
theorem sift_eq_self (h : EveryAct (fun a => keep a = true) d) : d.sift keep = d := by
  induction h with
  | done a => rfl
  | fail e => rfl
  | act ha h ih => rw [sift, if_pos ha, ih]
  | ask q h ih => simp only [sift, ih]

theorem everyAct_keep_sift (d : Dialogue α) : EveryAct (fun a => keep a = true) (d.sift keep) := by
  induction d with
  | done a => exact .done a
  | fail e => exact .fail e
  | act a next ih =>
    rw [sift]
    split_ifs with ha
    · exact .act ha (ih ())
    · exact ih ()
  | ask q next ih => exact .ask q ih

theorem EveryAct.sift (h : EveryAct P d) (keep : Act → Bool) : EveryAct P (d.sift keep) := by
  induction h with
  | done a => exact .done a
  | fail e => exact .fail e
  | act ha h ih =>
    rw [Dialogue.sift]
    split_ifs
    · exact .act ha ih
    · exact ih
  | ask q h ih => exact .ask q ih

/-! ### Runs -/

section Runs

variable [Prompting σ]

/-- What a view shows of a prompter decides its answers, and it is not changed by acts that are
left out. -/
structure Overlooks (view : σ → τ) (keep : Act → Bool) : Prop where
  leftOut : ∀ a s, keep a = false → view (afterAct s a) = view s
  act : ∀ a s s', view s = view s' → view (afterAct s a) = view (afterAct s' a)
  answer : ∀ q s s', view s = view s' → (Prompting.ask q s).1 = (Prompting.ask q s').1
  ask : ∀ q s s', view s = view s' → view (Prompting.ask q s).2 = view (Prompting.ask q s').2

/-- A run without acts that the prompter overlooks ends in the same way, and the same happens in it
but for these acts. -/
theorem run_sift {view : σ → τ} (h : Overlooks view keep) (d : Dialogue α) {s s' : σ}
    (hview : view s = view s') :
    ((d.sift keep).run s').outcome = (d.run s).outcome ∧
      ((d.sift keep).run s').events = (d.run s).events.filter (Event.isKept keep) ∧
      view ((d.sift keep).run s').prompter = view (d.run s).prompter := by
  induction d generalizing s s' with
  | done a => exact ⟨rfl, rfl, hview.symm⟩
  | fail e => exact ⟨rfl, rfl, hview.symm⟩
  | act a next ih =>
    rw [sift]
    cases ha : keep a with
    | true =>
      obtain ⟨houtcome, hevents, hprompter⟩ := ih () (h.act a s s' hview)
      refine ⟨houtcome, ?_, hprompter⟩
      rw [if_pos rfl, run, run, List.filter_cons_of_pos (by exact ha), hevents]
    | false =>
      obtain ⟨houtcome, hevents, hprompter⟩ := ih () ((h.leftOut a s ha).trans hview)
      refine ⟨houtcome, ?_, hprompter⟩
      rw [if_neg (by decide), run, List.filter_cons_of_neg (by simp [Event.isKept, ha]), hevents]
  | ask q next ih =>
    obtain ⟨houtcome, hevents, hprompter⟩ := ih (Prompting.ask q s).1 (h.ask q s s' hview)
    rw [h.answer q s s' hview] at houtcome hevents hprompter
    refine ⟨?_, ?_, ?_⟩
    · rw [sift, run, run, houtcome, h.answer q s s' hview]
    · rw [sift, run, run, List.filter_cons_of_pos rfl, hevents, h.answer q s s' hview]
    · rw [sift, run, run, hprompter, h.answer q s s' hview]

end Runs

end Dialogue

end PipelineScript
