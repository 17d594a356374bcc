import Mathlib.Tactic.Common
import PipelineScript.Proofs.Dialogue.Sift
import PipelineScript.Proofs.Prompter.Recorder

/-!
# Traces of dialogues

A trace of a dialogue is what may happen in it, with its end, under some answers. Two traces of one
dialogue are the same unless a question is answered in two ways.
-/

namespace PipelineScript

/-- Questions that are asked in both lists behind the same questions and answers are answered in
the same way. -/
def AnsweredAlike (l l' : List Exchange) : Prop :=
  ∀ before q r r', before ++ [(q, r)] <+: l → before ++ [(q, r')] <+: l' → r = r'

theorem answeredAlike_self (l : List Exchange) : AnsweredAlike l l := by
  intro before q r r' h h'
  obtain ⟨after, hl⟩ := h
  obtain ⟨after', hl'⟩ := h'
  rw [← hl', List.append_assoc, List.append_assoc, List.append_cancel_left_eq] at hl
  exact (Prod.mk.inj (List.cons.inj hl).1).2

namespace Dialogue

variable {α β σ : Type} {d : Dialogue α} {f : α → Dialogue β} {events events' : List Event}
  {r r' : Except GenerationError α}

/-- Under some answers these events happen in the dialogue, and it ends with this result. -/
inductive Traces : Dialogue α → List Event → Except GenerationError α → Prop
  | done (a : α) : Traces (.done a) [] (.ok a)
  | fail (e : GenerationError) : Traces (.fail e) [] (.error e)
  | act (a : Act) {next : Unit → Dialogue α} {events : List Event} {r : Except GenerationError α}
      (h : Traces (next ()) events r) : Traces (.act a next) (.acted a :: events) r
  | ask (q : Question) {next : Except PromptError Response → Dialogue α}
      (answer : Except PromptError Response) {events : List Event} {r : Except GenerationError α}
      (h : Traces (next answer) events r) : Traces (.ask q next) (.asked q answer :: events) r

/-- The exchanges among events. -/
def exchanges (events : List Event) : List Exchange :=
  events.filterMap Event.exchange?

@[simp]
theorem exchanges_acted (a : Act) (events : List Event) :
    exchanges (.acted a :: events) = exchanges events := rfl

@[simp]
theorem exchanges_asked (q : Question) (r : Except PromptError Response) (events : List Event) :
    exchanges (.asked q r :: events) = (q, r) :: exchanges events := rfl

/-- Acts that are left out leave the exchanges as they are. -/
theorem exchanges_filter (keep : Act → Bool) (events : List Event) :
    exchanges (events.filter (Event.isKept keep)) = exchanges events := by
  induction events with
  | nil => rfl
  | cons e events ih =>
    cases e with
    | acted a =>
      rw [List.filter_cons, exchanges_acted]
      split_ifs
      · rw [exchanges_acted, ih]
      · exact ih
    | asked q r =>
      rw [List.filter_cons_of_pos rfl, exchanges_asked, exchanges_asked, ih]

namespace Traces

/-- What happens in a run is a trace. -/
theorem of_run [Prompting σ] (d : Dialogue α) (s : σ) :
    Traces d (d.run s).events (d.run s).outcome := by
  induction d generalizing s with
  | done a => exact .done a
  | fail e => exact .fail e
  | act a next ih => exact .act a (ih () _)
  | ask q next ih => exact .ask q _ (ih _ _)

/-- A trace of the whole ends where the first part fails, or it is made of traces of both parts. -/
theorem of_bind {r : Except GenerationError β} (h : Traces (d.bind f) events r) :
    (∃ e, Traces d events (.error e) ∧ r = .error e) ∨
      ∃ a first later, Traces d first (.ok a) ∧ Traces (f a) later r ∧ events = first ++ later := by
  induction d generalizing events with
  | done a => exact .inr ⟨a, [], events, .done a, h, rfl⟩
  | fail e =>
    cases h
    exact .inl ⟨e, .fail e, rfl⟩
  | act a next ih =>
    cases h with
    | act _ h =>
      obtain ⟨e, hfirst, hr⟩ | ⟨x, first, later, hfirst, hlater, rfl⟩ := ih () h
      · exact .inl ⟨e, .act a hfirst, hr⟩
      · exact .inr ⟨x, .acted a :: first, later, .act a hfirst, hlater, rfl⟩
  | ask q next ih =>
    cases h with
    | ask _ answer h =>
      obtain ⟨e, hfirst, hr⟩ | ⟨x, first, later, hfirst, hlater, rfl⟩ := ih answer h
      · exact .inl ⟨e, .ask q answer hfirst, hr⟩
      · exact .inr ⟨x, .asked q answer :: first, later, .ask q answer hfirst, hlater, rfl⟩

/-- Acts that are left out of a dialogue are left out of its traces. -/
theorem sift (h : Traces d events r) (keep : Act → Bool) :
    Traces (d.sift keep) (events.filter (Event.isKept keep)) r := by
  induction h with
  | done a => exact .done a
  | fail e => exact .fail e
  | act a h ih =>
    rw [Dialogue.sift]
    split_ifs with ha
    · rw [List.filter_cons_of_pos (by exact ha)]
      exact .act a ih
    · rw [List.filter_cons_of_neg (by exact ha)]
      exact ih
  | ask q answer h ih =>
    rw [List.filter_cons_of_pos rfl]
    exact .ask q answer ih

/-- Traces that are answered alike are the same. -/
theorem eq_of_answeredAlike (h : Traces d events r) (h' : Traces d events' r')
    (halike : AnsweredAlike (exchanges events) (exchanges events')) :
    events = events' ∧ r = r' := by
  induction h generalizing events' with
  | done a =>
    cases h'
    exact ⟨rfl, rfl⟩
  | fail e =>
    cases h'
    exact ⟨rfl, rfl⟩
  | act a h ih =>
    cases h' with
    | act _ h' =>
      obtain ⟨rfl, rfl⟩ := ih h' halike
      exact ⟨rfl, rfl⟩
  | ask q answer h ih =>
    cases h' with
    | ask _ answer' h' =>
      rw [exchanges_asked, exchanges_asked] at halike
      obtain rfl : answer = answer' :=
        halike [] q answer answer' ⟨_, rfl⟩ ⟨_, rfl⟩
      obtain ⟨rfl, rfl⟩ := ih h' fun before q' x x' hx hx' =>
        halike ((q, answer) :: before) q' x x' ((List.prefix_cons_inj _).2 hx)
          ((List.prefix_cons_inj _).2 hx')
      exact ⟨rfl, rfl⟩

end Traces

end Dialogue

end PipelineScript
