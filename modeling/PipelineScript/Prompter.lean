import PipelineScript.Question

/-!
# Prompters

A prompter answers questions and shows notices.  Where it may be asked until an answer will do, it
has a supply, which bounds the number of the answers that it can still give.
-/

namespace PipelineScript

/-- Something that answers questions and shows notices. -/
class Prompting (σ : Type) where
  /-- Asks a question. -/
  ask : Question → σ → Except PromptError Response × σ
  /-- Shows a notice. -/
  notify : String → Colour → σ → σ

/-- A prompter that can be asked again and again, since its answers run out. -/
class Prompter (σ : Type) extends Prompting σ where
  /-- A bound on the number of answers that are left. -/
  supply : σ → Nat
  /-- An answer uses up some of the supply. -/
  supply_lt : ∀ {q s r s'}, ask q s = (.ok r, s') → supply s' < supply s

/-! ### Nobody to ask -/

/-- A prompter for runs without a terminal, which holds the notices that have been shown. -/
structure Unattended where
  shown : String
  deriving DecidableEq, Repr, Inhabited

instance : Prompter Unattended where
  ask _ s := (.error .unavailable, s)
  notify message colour s := ⟨s.shown ++ colour.paint message ++ "\n"⟩
  supply _ := 0
  supply_lt h := by simp at h

/-! ### Answers given in advance -/

/-- A prompter with a list of answers, which holds what it was asked and told. -/
structure Scripted where
  responses : List Response
  asked : List Question
  notices : List String
  deriving Repr, Inhabited

namespace Scripted

/-- The prompter that gives these answers. -/
def ofResponses (responses : List Response) : Scripted := ⟨responses, [], []⟩

/-- The prompter that gives these choices. -/
def ofChoices (choices : List Choice) : Scripted := ofResponses (choices.map .choice)

/-- The answer to a question, regardless of the question. -/
def answer (q : Question) (s : Scripted) : Except PromptError Response × Scripted :=
  match s.responses with
  | [] => (.error .closed, { s with asked := s.asked ++ [q] })
  | r :: rs => (.ok r, ⟨rs, s.asked ++ [q], s.notices⟩)

end Scripted

instance : Prompter Scripted where
  ask := Scripted.answer
  notify message _ s := { s with notices := s.notices ++ [message] }
  supply s := s.responses.length
  supply_lt {q s r s'} h := by
    unfold Scripted.answer at h
    split at h
    · simp at h
    · rename_i heq
      simp only [Prod.mk.injEq] at h
      rw [← h.2, heq]
      simp

end PipelineScript
