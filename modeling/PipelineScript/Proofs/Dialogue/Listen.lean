import PipelineScript.Proofs.Prompter.Recorder

/-!
# What dialogues give

A dialogue gives a result to whoever goes on behind it, and nothing else of it is seen there. A
dialogue that is listened to gives all that its run consists of.
-/

namespace PipelineScript.Dialogue

variable {α β σ : Type}

/-- The dialogue with what it ended with, and what happened in it, as its result. -/
def listen : Dialogue α → Dialogue (Run α Unit)
  | done a => done ⟨.ok a, [], ()⟩
  | fail e => done ⟨.error e, [], ()⟩
  | act a next => act a fun _ =>
    (next ()).listen.bind fun r => done ⟨r.outcome, .acted a :: r.events, ()⟩
  | ask q next => ask q fun answer =>
    (next answer).listen.bind fun r => done ⟨r.outcome, .asked q answer :: r.events, ()⟩

variable [Prompting σ]

/-- With the prompter `s` the dialogue comes to the result `a`, and `s'` is left of the prompter. -/
def Gives (d : Dialogue α) (s : σ) (a : α) (s' : σ) : Prop :=
  (d.run s).outcome = .ok a ∧ (d.run s).prompter = s'

namespace Gives

variable {d : Dialogue α} {f : α → Dialogue β} {a : α} {b : β} {s s' s'' : σ}

theorem done (a : α) (s : σ) : (Dialogue.done a).Gives s a s :=
  ⟨rfl, rfl⟩

theorem act {c : Act} {next : Unit → Dialogue α} (h : (next ()).Gives (afterAct s c) a s') :
    (Dialogue.act c next).Gives s a s' := h

theorem ask {q : Question} {next : Except PromptError Response → Dialogue α}
    {answer : Except PromptError Response} (hask : Prompting.ask q s = (answer, s'))
    (h : (next answer).Gives s' a s'') : (Dialogue.ask q next).Gives s a s'' := by
  rw [Gives, run, hask]
  exact h

theorem bind (h : d.Gives s a s') (h' : (f a).Gives s' b s'') : (d.bind f).Gives s b s'' := by
  induction d generalizing s with
  | done x =>
    obtain ⟨houtcome, rfl⟩ := h
    cases houtcome
    exact h'
  | fail e => cases h.1
  | act c next ih => exact act (ih () h)
  | ask q next ih => exact ask rfl (ih _ h)

/-- A dialogue gives the same with a recorder as with the prompter behind it. -/
theorem inner {s s' : Recorder σ} {t : σ} {a' : α} (h : d.Gives s.inner a t)
    (h' : d.Gives s a' s') : a = a' ∧ t = s'.inner := by
  rw [Gives, run_inner] at h
  exact ⟨Except.ok.inj (h.1.symm.trans h'.1), h.2.symm.trans (congrArg Recorder.inner h'.2)⟩

end Gives

/-- A dialogue that is listened to gives its run. -/
theorem gives_listen (d : Dialogue α) (s : σ) :
    d.listen.Gives s ((d.run s).mapPrompter fun _ => ()) (d.run s).prompter := by
  induction d generalizing s with
  | done a => exact .done _ s
  | fail e => exact .done _ s
  | act a next ih => exact .act ((ih () (afterAct s a)).bind (.done _ _))
  | ask q next ih => exact .ask rfl ((ih _ _).bind (.done _ _))

end PipelineScript.Dialogue
