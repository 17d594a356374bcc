import Mathlib.Tactic.Common
import PipelineScript.Proofs.Dialogue.Trace
import PipelineScript.Terminal

/-!
# Prompters that ignore notices

A prompter is told notices, and it might answer in another way because of them. None of the
prompters here does: nobody answers nothing, answers given in advance come in their order, and a
terminal reads the lines of its input.
-/

namespace PipelineScript

/-- Notices make no difference to the answers of a prompter: what a view shows of it decides each
answer and the view behind it, and notices leave the view alone. -/
def Prompting.IgnoresNotices (σ : Type) [Prompting σ] : Prop :=
  ∃ (τ : Type) (view : σ → τ),
    (∀ message colour s, view (Prompting.notify message colour s) = view s) ∧
      ∀ q s s', view s = view s' → (Prompting.ask q s).1 = (Prompting.ask q s').1 ∧
        view (Prompting.ask q s).2 = view (Prompting.ask q s').2

/-- A prompter that ignores notices overlooks whatever acts are left out. -/
theorem Prompting.IgnoresNotices.exists_overlooks {σ : Type} [Prompting σ]
    (h : Prompting.IgnoresNotices σ) (keep : Act → Bool) :
    ∃ (τ : Type) (view : σ → τ), Dialogue.Overlooks view keep := by
  obtain ⟨τ, view, hnotify, hask⟩ := h
  have hact (a : Act) (s : σ) : view (Dialogue.afterAct s a) = view s := by
    cases a with
    | notice message colour => exact hnotify message colour s
    | load path depth => rfl
    | job name => rfl
    | emit c => rfl
  exact ⟨τ, view, fun a s _ => hact a s, fun a s s' hs => by rw [hact, hact, hs],
    fun q s s' hs => (hask q s s' hs).1, fun q s s' hs => (hask q s s' hs).2⟩

/-- A prompter that ignores notices is asked the same, and answers the same, in dialogues that are
the same but for the acts that are left out. -/
theorem Prompting.IgnoresNotices.exchanges_eq {α σ : Type} [Prompting σ]
    (h : Prompting.IgnoresNotices σ) {keep : Act → Bool} {d d' : Dialogue α}
    (hsift : d.sift keep = d'.sift keep) (s : σ) :
    Dialogue.exchanges (d.run s).events = Dialogue.exchanges (d'.run s).events := by
  obtain ⟨τ, view, hview⟩ := h.exists_overlooks keep
  obtain ⟨-, hevents, -⟩ := Dialogue.run_sift hview d (rfl : view s = view s)
  obtain ⟨-, hevents', -⟩ := Dialogue.run_sift hview d' (rfl : view s = view s)
  rw [← Dialogue.exchanges_filter keep, ← hevents, hsift, hevents', Dialogue.exchanges_filter]

theorem Unattended.ignoresNotices : Prompting.IgnoresNotices Unattended :=
  ⟨Unit, fun _ => (), fun _ _ _ => rfl, fun _ _ _ _ => ⟨rfl, rfl⟩⟩

theorem Scripted.ignoresNotices : Prompting.IgnoresNotices Scripted := by
  refine ⟨List Response, Scripted.responses, fun _ _ _ => rfl, fun q s s' hs => ?_⟩
  obtain ⟨responses, asked, notices⟩ := s
  obtain rfl : responses = s'.responses := hs
  simp only [Prompting.ask, Scripted.answer]
  cases s'.responses with
  | nil => exact ⟨rfl, rfl⟩
  | cons r rs => exact ⟨rfl, rfl⟩

namespace Terminal

/-- The answer that is read, and what is left unread, depend on the input alone. -/
theorem readAnswer_input (q : Question) {t t' : Terminal} (h : t.input = t'.input) :
    (readAnswer q t).1 = (readAnswer q t').1 ∧
      (readAnswer q t).2.input = (readAnswer q t').2.input := by
  generalize hlength : t.input.length = n
  induction n using Nat.strongRecOn generalizing t t' with
  | ind n ih =>
    obtain ⟨input, output, colours⟩ := t
    obtain ⟨input', output', colours'⟩ := t'
    obtain rfl : input = input' := h
    cases input with
    | nil =>
      rw [readAnswer, readAnswer]
      exact ⟨rfl, rfl⟩
    | cons b bs =>
      have hne : b :: bs ≠ [] := List.cons_ne_nil b bs
      rw [readAnswer, readAnswer, dif_neg (by exact hne), dif_neg (by exact hne)]
      simp only [write]
      cases String.fromUTF8? ⟨(splitLine (b :: bs)).1.toArray⟩ with
      | none => exact ⟨rfl, rfl⟩
      | some line =>
        simp only
        cases q.interpret (Text.trim line) with
        | some r => exact ⟨rfl, rfl⟩
        -- The warning is written, and the rest of the input is shorter.
        | none => exact ih _ (hlength ▸ length_splitLine_lt hne) rfl rfl

theorem ignoresNotices : Prompting.IgnoresNotices Terminal := by
  refine ⟨List UInt8, Terminal.input, fun _ _ _ => rfl, fun q t t' h => ?_⟩
  refine readAnswer_input q ?_
  cases q.context with
  | none => exact h
  | some context => exact h

end Terminal

end PipelineScript
