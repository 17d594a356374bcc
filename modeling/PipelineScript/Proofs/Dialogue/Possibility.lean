import Mathlib.Tactic.Common
import PipelineScript.Proofs.Dialogue.Performance
import PipelineScript.Proofs.Selection.Offer

/-!
# What may happen in a dialogue

A dialogue says what would be done under every answer. Two questions about it need no prompter:
what holds of every act that it may do, and with which results it may end. A run gives one of the
possible answers to both, and a selection adds no acts but notices and no ways to the end.
-/

namespace PipelineScript

namespace Dialogue

variable {α β σ : Type} {P : Act → Prop} {d : Dialogue α} {f : α → Dialogue β}

/-! ### Acts -/

/-- The property holds of each act that may be done, whatever is answered. -/
inductive EveryAct (P : Act → Prop) : Dialogue α → Prop
  | done (a : α) : EveryAct P (.done a)
  | fail (e : GenerationError) : EveryAct P (.fail e)
  | act {a : Act} {next : Unit → Dialogue α} (ha : P a) (h : EveryAct P (next ())) :
      EveryAct P (.act a next)
  | ask (q : Question) {next : Except PromptError Response → Dialogue α}
      (h : ∀ r, EveryAct P (next r)) : EveryAct P (.ask q next)

namespace EveryAct

theorem bind (h : EveryAct P d) (hf : ∀ a, EveryAct P (f a)) : EveryAct P (d.bind f) := by
  induction h with
  | done a => exact hf a
  | fail e => exact .fail e
  | act ha h ih => exact .act ha ih
  | ask q h ih => exact .ask q ih

theorem imp {Q : Act → Prop} (h : EveryAct P d) (himp : ∀ a, P a → Q a) : EveryAct Q d := by
  induction h with
  | done a => exact .done a
  | fail e => exact .fail e
  | act ha h ih => exact .act (himp _ ha) ih
  | ask q h ih => exact .ask q ih

theorem ofExcept (r : Except GenerationError α) : EveryAct P (.ofExcept r) := by
  cases r with
  | ok a => exact .done a
  | error e => exact .fail e

/-- What holds of each act that may be done holds of each act of a run. -/
theorem run [Prompting σ] (h : EveryAct P d) (s : σ) {a : Act} (ha : .acted a ∈ (d.run s).events) :
    P a := by
  induction h generalizing s with
  | done b => cases ha
  | fail e => cases ha
  | @act b next hb h ih =>
    rcases List.mem_cons.1 ha with heq | ha
    · cases heq
      exact hb
    · exact ih _ ha
  | ask q h ih =>
    rcases List.mem_cons.1 ha with heq | ha
    · cases heq
    · exact ih _ _ ha

end EveryAct

/-! ### Allowed answers -/

/-- As long as only allowed answers are given, `P` holds of each act and `Q` of the result. -/
inductive Under (allowed : Question → Except PromptError Response → Prop) (P : Act → Prop)
    (Q : α → Prop) : Dialogue α → Prop
  | done {a : α} (ha : Q a) : Under allowed P Q (.done a)
  | fail (e : GenerationError) : Under allowed P Q (.fail e)
  | act {a : Act} {next : Unit → Dialogue α} (ha : P a) (h : Under allowed P Q (next ())) :
      Under allowed P Q (.act a next)
  | ask (q : Question) {next : Except PromptError Response → Dialogue α}
      (h : ∀ r, allowed q r → Under allowed P Q (next r)) : Under allowed P Q (.ask q next)

namespace Under

variable {allowed : Question → Except PromptError Response → Prop} {Q : α → Prop} {Q' : β → Prop}

theorem bind (h : Under allowed P Q d) (hf : ∀ a, Q a → Under allowed P Q' (f a)) :
    Under allowed P Q' (d.bind f) := by
  induction h with
  | done ha => exact hf _ ha
  | fail e => exact .fail e
  | act ha h ih => exact .act ha ih
  | ask q h ih => exact .ask q ih

theorem imp {Q' : α → Prop} (h : Under allowed P Q d) (himp : ∀ a, Q a → Q' a) :
    Under allowed P Q' d := by
  induction h with
  | done ha => exact .done (himp _ ha)
  | fail e => exact .fail e
  | act ha h ih => exact .act ha ih
  | ask q h ih => exact .ask q ih

/-- What holds under allowed answers holds of a run in which all answers are allowed. -/
theorem run [Prompting σ] (h : Under allowed P Q d) {s : σ}
    (hallowed : ∀ q r, .asked q r ∈ (d.run s).events → allowed q r) {a : Act}
    (ha : .acted a ∈ (d.run s).events) : P a := by
  induction h generalizing s with
  | done hb => cases ha
  | fail e => cases ha
  | @act b next hb h ih =>
    rcases List.mem_cons.1 ha with heq | ha
    · cases heq
      exact hb
    · exact ih (fun q r hasked => hallowed q r (.tail _ hasked)) ha
  | @ask q next h ih =>
    rcases List.mem_cons.1 ha with heq | ha
    · cases heq
    · exact ih _ (hallowed q _ List.mem_cons_self)
        (fun q r hasked => hallowed q r (.tail _ hasked)) ha

end Under

theorem EveryAct.under (h : EveryAct P d)
    (allowed : Question → Except PromptError Response → Prop) :
    Under allowed P (fun _ => True) d := by
  induction h with
  | done a => exact .done trivial
  | fail e => exact .fail e
  | act ha h ih => exact .act ha ih
  | ask q h ih => exact .ask q fun r _ => ih r

/-- What holds of each act under all answers holds of each act. -/
theorem Under.everyAct {Q : α → Prop} (h : Under (fun _ _ => True) P Q d) : EveryAct P d := by
  induction h with
  | done ha => exact .done _
  | fail e => exact .fail e
  | act ha h ih => exact .act ha ih
  | ask q h ih => exact .ask q fun r => ih r trivial

/-! ### Results -/

/-- The dialogue ends with this result under some answers. -/
inductive MayEnd : Dialogue α → α → Prop
  | done (a : α) : MayEnd (.done a) a
  | act (b : Act) {next : Unit → Dialogue α} {a : α} (h : MayEnd (next ()) a) :
      MayEnd (.act b next) a
  | ask (q : Question) {next : Except PromptError Response → Dialogue α}
      (r : Except PromptError Response) {a : α} (h : MayEnd (next r) a) : MayEnd (.ask q next) a

namespace MayEnd

/-- A run that succeeds shows a result with which the dialogue may end. -/
theorem of_run [Prompting σ] {s : σ} {a : α} (h : (d.run s).outcome = .ok a) : MayEnd d a := by
  induction d generalizing s with
  | done b =>
    cases h
    exact .done a
  | fail e => cases h
  | act b next ih => exact .act b (ih () h)
  | ask q next ih => exact .ask q _ (ih _ h)

/-- If the whole may end, each part may. -/
theorem of_bind {b : β} (h : MayEnd (d.bind f) b) : ∃ a, MayEnd d a ∧ MayEnd (f a) b := by
  induction d with
  | done a => exact ⟨a, .done a, h⟩
  | fail e => cases h
  | act a next ih =>
    cases h with
    | act _ h =>
      obtain ⟨a', ha', hb⟩ := ih () h
      exact ⟨a', .act a ha', hb⟩
  | ask q next ih =>
    cases h with
    | ask _ r h =>
      obtain ⟨a, ha, hb⟩ := ih r h
      exact ⟨a, .ask q r ha, hb⟩

theorem of_ofExcept {r : Except GenerationError α} {a : α} (h : MayEnd (.ofExcept r) a) :
    r = .ok a := by
  cases r with
  | ok b =>
    cases h
    rfl
  | error e => cases h

end MayEnd

end Dialogue

namespace Selection

open Dialogue

variable {α β : Type} {P : Act → Prop} {d : Dialogue α}

/-- What comes first and does nothing but ask is let through as it is. -/
theorem select_bind (h : EveryAct (fun _ => False) d) (interactive : Bool) (s : Session)
    (f : α → Dialogue β) :
    select interactive s (d.bind f) = d.bind fun a => select interactive s (f a) := by
  induction h with
  | done a => rfl
  | fail e => rfl
  | act ha h ih => exact ha.elim
  | ask q h ih => simp only [Dialogue.bind, select, ih]

/-- A selection does nothing that the dialogue would not do under the same answers, notices
apart. -/
theorem under_select {allowed : Question → Except PromptError Response → Prop} {Q : α → Prop}
    (hnotice : ∀ message colour, P (.notice message colour)) (h : Under allowed P Q d)
    (interactive : Bool) (s : Session) :
    Under allowed P (fun _ => True) (select interactive s d) := by
  induction h generalizing s with
  | done ha => exact .done trivial
  | fail e => exact .fail e
  | ask q h ih => exact .ask q fun r hr => ih r hr s
  | @act a next ha h ih =>
    cases a with
    | load path depth => exact .act ha (ih s)
    | job name => exact .act ha (ih s)
    | notice message colour =>
      rw [select_notice]
      split_ifs
      · exact ih s
      · exact .act ha (ih s)
    | emit c =>
      rw [select_emit]
      split_ifs
      · exact ih s
      · refine .ask _ fun r _ => ?_
        rcases r with e | r
        · exact .fail _
        rw [answered]
        cases choiceOf r with
        | yes => exact .act ha (ih _)
        | no => exact ih _
        | acceptRemaining => exact .act (hnotice _ _) (.act ha (ih _))
        | skipRemaining => exact .act (hnotice _ _) (ih _)
        | quit => exact .act (hnotice _ _) (.done trivial)
      · exact .act ha (ih s)

theorem everyAct_select (hnotice : ∀ message colour, P (.notice message colour))
    (h : EveryAct P d) (interactive : Bool) (s : Session) :
    EveryAct P (select interactive s d) :=
  (under_select hnotice (h.under _) interactive s).everyAct

/-- A selection goes on to its end only if the dialogue may come to an end. -/
theorem mayEnd_of_select {interactive : Bool} {s s' : Session}
    (h : MayEnd (select interactive s d) (.continued s')) : ∃ a, MayEnd d a := by
  induction d generalizing s with
  | done a => exact ⟨a, .done a⟩
  | fail e => cases h
  | ask q next ih =>
    cases h with
    | ask _ r h =>
      obtain ⟨a, ha⟩ := ih r h
      exact ⟨a, .ask q r ha⟩
  | act a next ih =>
    suffices hnext : ∃ s, MayEnd (select interactive s (next ())) (.continued s') by
      obtain ⟨s, hs⟩ := hnext
      obtain ⟨b, hb⟩ := ih () hs
      exact ⟨b, .act a hb⟩
    cases a with
    | load path depth =>
      cases h with
      | act _ h => exact ⟨s, h⟩
    | job name =>
      cases h with
      | act _ h => exact ⟨s, h⟩
    | notice message colour =>
      rw [select_notice] at h
      split_ifs at h
      · exact ⟨s, h⟩
      · cases h with
        | act _ h => exact ⟨s, h⟩
    | emit c =>
      rw [select_emit] at h
      split_ifs at h
      · exact ⟨s, h⟩
      · cases h with
        | ask _ r h =>
        rcases r with e | r
        · cases h
        rw [answered] at h
        cases hchoice : choiceOf r <;> rw [hchoice] at h
        case yes =>
          cases h with
          | act _ h => exact ⟨_, h⟩
        case no => exact ⟨_, h⟩
        case acceptRemaining =>
          cases h with
          | act _ h =>
            cases h with
            | act _ h => exact ⟨_, h⟩
        case skipRemaining =>
          cases h with
          | act _ h => exact ⟨_, h⟩
        case quit =>
          cases h with
          | act _ h => cases h
      · cases h with
        | act _ h => exact ⟨s, h⟩

end Selection

end PipelineScript
