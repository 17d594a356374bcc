import PipelineScript.Proofs.Dialogue.Listen
import PipelineScript.Proofs.Prompter.Scripted
import PipelineScript.Proofs.Selection.Offer

/-!
# Dialogues at the end of the input

A question finds that the input has ended. A dialogue that ends there and nowhere else with that
failure needs its answers one by one: what stands in a list behind the answers that it was given
makes no difference to it, and only a dialogue that came to the end of the list would have gone on
with more of them.
-/

namespace PipelineScript

namespace Scripted

/-- The prompter with more answers behind its own. -/
def followedBy (s : Scripted) (extra : List Response) : Scripted :=
  { s with responses := s.responses ++ extra }

theorem afterAct_followedBy (s : Scripted) (extra : List Response) (a : Act) :
    Dialogue.afterAct (s.followedBy extra) a = (Dialogue.afterAct s a).followedBy extra := by
  cases a <;> rfl

/-- An answer that there is comes first with more answers behind it as well. -/
theorem ask_followedBy {s : Scripted} {r : Response} {rs : List Response}
    (h : s.responses = r :: rs) (extra : List Response) (q : Question) :
    Prompting.ask q s = (.ok r, ⟨rs, s.asked ++ [q], s.notices⟩) ∧
      Prompting.ask q (s.followedBy extra) =
        (.ok r, followedBy ⟨rs, s.asked ++ [q], s.notices⟩ extra) := by
  obtain ⟨responses, asked, notices⟩ := s
  subst h
  exact ⟨rfl, rfl⟩

/-- The second prompter was asked and told all that the first one was, and perhaps more. -/
structure Precedes (s s' : Scripted) : Prop where
  asked : s.asked <+: s'.asked
  notices : s.notices <+: s'.notices

theorem Precedes.trans {s s' s'' : Scripted} (h : s.Precedes s') (h' : s'.Precedes s'') :
    s.Precedes s'' :=
  ⟨h.asked.trans h'.asked, h.notices.trans h'.notices⟩

theorem precedes_afterAct (s : Scripted) (a : Act) : s.Precedes (Dialogue.afterAct s a) := by
  cases a with
  | notice message colour => exact ⟨List.prefix_rfl, List.prefix_append _ _⟩
  | load path depth => exact ⟨List.prefix_rfl, List.prefix_rfl⟩
  | job name => exact ⟨List.prefix_rfl, List.prefix_rfl⟩
  | emit c => exact ⟨List.prefix_rfl, List.prefix_rfl⟩

/-- A question is asked whether or not there is an answer to it. -/
theorem precedes_ask (s : Scripted) (q : Question) :
    Precedes ⟨[], s.asked ++ [q], s.notices⟩ (Prompting.ask q s).2 := by
  rw [ask_eq]
  exact ⟨List.prefix_rfl, List.prefix_rfl⟩

/-- Questions and notices of a run come behind those before it. -/
theorem precedes_run {α : Type} (d : Dialogue α) (s : Scripted) :
    s.Precedes (d.run s).prompter := by
  induction d generalizing s with
  | done a => exact ⟨List.prefix_rfl, List.prefix_rfl⟩
  | fail e => exact ⟨List.prefix_rfl, List.prefix_rfl⟩
  | act a next ih => exact (precedes_afterAct s a).trans (ih () _)
  | ask q next ih =>
    have hasked : s.Precedes ⟨[], s.asked ++ [q], s.notices⟩ :=
      ⟨List.prefix_append _ _, List.prefix_rfl⟩
    exact (hasked.trans (precedes_ask s q)).trans (ih _ _)

end Scripted

namespace Dialogue

variable {α β : Type} {d : Dialogue α} {f : α → Dialogue β} {P : α → Prop} {Q : β → Prop}

/-- The result is that the input ended before a question was answered; where a value may say so too,
`P` says which. -/
def IsClosed (P : α → Prop) : Except GenerationError α → Prop
  | .ok a => P a
  | .error e => e = .unanswered .closed

/-- The dialogue ends where a question finds that the input has ended, and its result says so there
and nowhere else. -/
inductive Closes (P : α → Prop) : Dialogue α → Prop
  | done {a : α} (h : ¬P a) : Closes P (.done a)
  | fail {e : GenerationError} (h : e ≠ .unanswered .closed) : Closes P (.fail e)
  | act (a : Act) {next : Unit → Dialogue α} (h : Closes P (next ())) : Closes P (.act a next)
  | ask (q : Question) {next : Except PromptError Response → Dialogue α}
      {r : Except GenerationError α} (hend : next (.error .closed) = .ofExcept r)
      (hclosed : IsClosed P r) (h : ∀ answer, answer ≠ .error .closed → Closes P (next answer)) :
      Closes P (.ask q next)

@[simp]
theorem run_ofExcept {σ : Type} [Prompting σ] (r : Except GenerationError α) (s : σ) :
    (Dialogue.ofExcept r).run s = ⟨r, [], s⟩ := by
  cases r <;> rfl

namespace Closes

/-- What comes behind a dialogue closes if it does so behind each value, and ends at once behind a
value that says that the input has ended. -/
theorem bind (h : Closes P d) (hf : ∀ a, ¬P a → Closes Q (f a))
    (hend : ∀ a, P a → ∃ b, f a = .done b ∧ Q b) : Closes Q (d.bind f) := by
  induction h with
  | done h => exact hf _ h
  | fail h => exact .fail h
  | act a h ih => exact .act a ih
  | @ask q next r hnext hclosed h ih =>
    cases r with
    | ok a =>
      obtain ⟨b, hb, hQ⟩ := hend a hclosed
      refine .ask q (r := .ok b) ?_ hQ ih
      rw [hnext]
      exact hb
    | error e =>
      refine .ask q (r := .error e) ?_ hclosed ih
      rw [hnext]
      rfl

/-- No value of the first part says that the input has ended. -/
theorem andThen (h : Closes (fun _ => False) d) (hf : ∀ a, Closes Q (f a)) :
    Closes Q (d.bind f) :=
  h.bind (fun a _ => hf a) fun _ ha => ha.elim

theorem perform (a : Act) : Closes (fun _ => False) (.perform a) :=
  .act a (.done id)

theorem ofExcept {r : Except GenerationError α} (h : ¬IsClosed P r) : Closes P (.ofExcept r) := by
  cases r with
  | ok a => exact .done h
  | error e => exact .fail h

/-- Whoever listens to a dialogue is told that the input has ended. -/
theorem listen (h : Closes P d) : Closes (fun r => IsClosed P r.outcome) d.listen := by
  induction h with
  | done h => exact .done h
  | fail h => exact .done h
  | act a h ih => exact .act a (ih.bind (fun r hr => .done hr) fun r hr => ⟨_, rfl, hr⟩)
  | @ask q next r hnext hclosed h ih =>
    refine .ask q (r := .ok ⟨r, [.asked q (.error .closed)], ()⟩) ?_ hclosed fun answer hne =>
      (ih answer hne).bind (fun r hr => .done hr) fun r hr => ⟨_, rfl, hr⟩
    rw [hnext]
    cases r <;> rfl

/-- A run with a list of answers that does not come to its end is the same with more answers behind
them, all of which are left. A run that does come to its end was asked and told no more than the run
that goes on, and it has used up its answers. -/
theorem run_followedBy (h : Closes P d) (s : Scripted) (extra : List Response) :
    (¬IsClosed P (d.run s).outcome →
      d.run (s.followedBy extra) = (d.run s).mapPrompter (·.followedBy extra)) ∧
    (IsClosed P (d.run s).outcome →
      (d.run s).prompter.Precedes (d.run (s.followedBy extra)).prompter ∧
        (d.run s).prompter.responses = []) := by
  induction h generalizing s with
  | done h => exact ⟨fun _ => rfl, fun hclosed => absurd hclosed h⟩
  | fail h => exact ⟨fun _ => rfl, fun hclosed => absurd hclosed h⟩
  | @act a next h ih =>
    obtain ⟨hopen, hclosed⟩ := ih (afterAct s a)
    rw [run, run, Scripted.afterAct_followedBy]
    exact ⟨fun h => by rw [hopen h]; rfl, hclosed⟩
  | @ask q next r hnext hr h ih =>
    cases hresponses : s.responses with
    | nil =>
      have hask : Prompting.ask q s = (.error .closed, ⟨[], s.asked ++ [q], s.notices⟩) := by
        rw [Scripted.ask_eq, hresponses]
        rfl
      rw [run, hask]
      simp only [hnext, run_ofExcept]
      refine ⟨fun hopen => absurd hr hopen, fun _ => ⟨?_, trivial⟩⟩
      exact (Scripted.precedes_ask (s.followedBy extra) q).trans (Scripted.precedes_run _ _)
    | cons a rs =>
      obtain ⟨hask, hask'⟩ := Scripted.ask_followedBy hresponses extra q
      obtain ⟨hopen, hclosed⟩ :=
        ih (.ok a) (fun h => by cases h) ⟨rs, s.asked ++ [q], s.notices⟩
      rw [run, run, hask, hask']
      exact ⟨fun h => by rw [hopen h]; rfl, hclosed⟩

end Closes

end Dialogue

namespace Selection

open Dialogue

variable {α : Type} {d : Dialogue α}

/-- A selection closes if the dialogue does, since its own questions fail without an answer. -/
theorem closes_select (h : Closes (fun _ => False) d) (interactive : Bool) (s : Session) :
    Closes (fun _ => False) (select interactive s d) := by
  induction h generalizing s with
  | done h => exact .done id
  | fail h => exact .fail h
  | @ask q next r hnext hclosed h ih =>
    refine .ask q (r := .error (.unanswered .closed)) ?_ rfl fun answer hne => ih answer hne s
    rw [hnext]
    cases r with
    | ok a => exact hclosed.elim
    | error e =>
      obtain rfl : e = .unanswered .closed := hclosed
      rfl
  | act a h ih =>
    cases a with
    | load path depth => exact .act _ (ih s)
    | job name => exact .act _ (ih s)
    | notice message colour =>
      rw [select_notice]
      split_ifs
      · exact ih s
      · exact .act _ (ih s)
    | emit c =>
      rw [select_emit]
      split_ifs
      · exact ih s
      · refine .ask _ (r := .error (.unanswered .closed)) rfl rfl fun answer hne => ?_
        rcases answer with e | answer
        · exact .fail fun h => hne (congrArg _ (GenerationError.unanswered.inj h))
        rw [answered]
        cases choiceOf answer with
        | yes => exact .act _ (ih _)
        | no => exact ih _
        | acceptRemaining => exact .act _ (.act _ (ih _))
        | skipRemaining => exact .act _ (ih _)
        | quit => exact .act _ (.done id)
      · exact .act _ (ih s)

end Selection

end PipelineScript
