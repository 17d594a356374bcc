import Mathlib.Tactic.Common
import PipelineScript.Proofs.Dialogue.Performance

/-!
# What stands in front of an act

A dialogue may come to an act by way of another dialogue: it does and asks what that one does, it
fails where that one fails, and where that one ends it goes on with the act.
-/

namespace PipelineScript.Dialogue

variable {α β γ σ : Type} {a : Act} {lead : Dialogue Unit} {d : Dialogue β}

theorem bind_assoc (d : Dialogue α) (f : α → Dialogue β) (g : β → Dialogue γ) :
    (d.bind f).bind g = d.bind fun x => (f x).bind g := by
  induction d with
  | done x => rfl
  | fail e => rfl
  | act b next ih => simp only [bind, ih]
  | ask q next ih => simp only [bind, ih]

/-- The second dialogue goes the way of the first one, and at its end it does the act. -/
inductive ComesTo (a : Act) : Dialogue Unit → Dialogue β → Prop
  | done (next : Unit → Dialogue β) : ComesTo a (.done ()) (.act a next)
  | fail (e : GenerationError) : ComesTo a (.fail e) (.fail e)
  | act (b : Act) {next : Unit → Dialogue Unit} {next' : Unit → Dialogue β}
      (h : ComesTo a (next ()) (next' ())) : ComesTo a (.act b next) (.act b next')
  | ask (q : Question) {next : Except PromptError Response → Dialogue Unit}
      {next' : Except PromptError Response → Dialogue β} (h : ∀ r, ComesTo a (next r) (next' r)) :
      ComesTo a (.ask q next) (.ask q next')

namespace ComesTo

/-- What follows makes no difference. -/
theorem bind (h : ComesTo a lead d) (f : β → Dialogue γ) : ComesTo a lead (d.bind f) := by
  induction h with
  | done next => exact .done _
  | fail e => exact .fail e
  | act b h ih => exact .act b ih
  | ask q h ih => exact .ask q ih

/-- The same dialogue may stand in front of both. -/
theorem after (first : Dialogue α) {lead : α → Dialogue Unit} {d : α → Dialogue β}
    (h : ∀ x, ComesTo a (lead x) (d x)) : ComesTo a (first.bind lead) (first.bind d) := by
  induction first with
  | done x => exact h x
  | fail e => exact .fail e
  | act b next ih => exact .act b (ih ())
  | ask q next ih => exact .ask q ih

variable [Prompting σ]

/-- A run fails with its lead, and behind a lead that does not fail it does the act. -/
theorem run (h : ComesTo a lead d) (s : σ) :
    (∀ e, (lead.run s).outcome = .error e → (d.run s).outcome = .error e) ∧
      ((lead.run s).outcome = .ok () →
        ∃ later, (d.run s).events = (lead.run s).events ++ .acted a :: later) := by
  induction h generalizing s with
  | done next =>
    constructor
    · intro e he
      cases he
    · exact fun _ => ⟨_, rfl⟩
  | fail e =>
    constructor
    · intro e' he
      cases he
      rfl
    · intro hok
      cases hok
  | act b h ih =>
    obtain ⟨hfails, hgoes⟩ := ih (afterAct s b)
    refine ⟨hfails, fun hok => ?_⟩
    obtain ⟨later, hlater⟩ := hgoes hok
    exact ⟨later, by rw [Dialogue.run, Dialogue.run, hlater, List.cons_append]⟩
  | ask q h ih =>
    obtain ⟨hfails, hgoes⟩ := ih (Prompting.ask q s).1 (Prompting.ask q s).2
    refine ⟨hfails, fun hok => ?_⟩
    obtain ⟨later, hlater⟩ := hgoes hok
    exact ⟨later, by rw [Dialogue.run, Dialogue.run, hlater, List.cons_append]⟩

/-- A run that succeeds has done the act. -/
theorem mem_events (h : ComesTo a lead d) {s : σ} {x : β} (hok : (d.run s).outcome = .ok x) :
    .acted a ∈ (d.run s).events := by
  obtain ⟨hfails, hgoes⟩ := h.run s
  cases hlead : (lead.run s).outcome with
  | error e =>
    rw [hfails e hlead] at hok
    cases hok
  | ok u =>
    obtain ⟨later, hlater⟩ := hgoes hlead
    rw [hlater]
    exact List.mem_append_right _ List.mem_cons_self

end ComesTo

end PipelineScript.Dialogue
