import PipelineScript.Dialogue

/-!
# Recording a prompter

A recorder passes questions and notices on to another prompter and keeps a record of the questions
with their answers. A run with a recorder is the run with the prompter behind it.
-/

namespace PipelineScript

variable {α σ : Type}

/-- What was asked, with the answer or the reason why there is none. -/
abbrev Exchange := Question × Except PromptError Response

/-- Questions that are put to a prompter one after the other, with the answers that it gives to
them, and what is left of it. -/
inductive Prompting.Answers [Prompting σ] : σ → List Exchange → σ → Prop
  | nil (s : σ) : Answers s [] s
  | cons {q : Question} {r : Except PromptError Response} {s s' s'' : σ} {rest : List Exchange}
      (h : Prompting.ask q s = (r, s')) (h' : Answers s' rest s'') : Answers s ((q, r) :: rest) s''

/-- A prompter with a record of what it was asked. -/
structure Recorder (σ : Type) where
  inner : σ
  record : List Exchange

/-- The prompter with an empty record. -/
def Recorder.start (s : σ) : Recorder σ := ⟨s, []⟩

variable [Prompting σ]

/-- Passes a question on. -/
def Recorder.pass (q : Question) (s : Recorder σ) : Except PromptError Response × Recorder σ :=
  let answer := Prompting.ask q s.inner
  (answer.1, ⟨answer.2, s.record ++ [(q, answer.1)]⟩)

instance : Prompting (Recorder σ) where
  ask := Recorder.pass
  notify message colour s := { s with inner := Prompting.notify message colour s.inner }

instance {σ : Type} [Prompter σ] : Prompter (Recorder σ) where
  supply s := Prompter.supply s.inner
  supply_lt {q s r s'} h := by
    obtain ⟨hanswer, rfl⟩ := Prod.mk.inj h
    exact Prompter.supply_lt (q := q) (Prod.ext hanswer rfl)

namespace Recorder

theorem ask_eq (q : Question) (s : Recorder σ) :
    Prompting.ask q s =
      ((Prompting.ask q s.inner).1,
        ⟨(Prompting.ask q s.inner).2, s.record ++ [(q, (Prompting.ask q s.inner).1)]⟩) := rfl

/-- What a recorder answers is what the prompter behind it answers. -/
theorem ask_inner (q : Question) (s : Recorder σ) :
    Prompting.ask q s.inner = Prod.map id inner (Prompting.ask q s) := rfl

/-- A question is put on the record with its answer. -/
theorem record_of_ask {q : Question} {s s' : Recorder σ} {r : Except PromptError Response}
    (h : Prompting.ask q s = (r, s')) : s'.record = s.record ++ [(q, r)] := by
  rw [ask_eq] at h
  obtain ⟨rfl, rfl⟩ := Prod.mk.inj h
  rfl

theorem afterAct_inner (s : Recorder σ) (a : Act) :
    Dialogue.afterAct s.inner a = (Dialogue.afterAct s a).inner := by
  cases a <;> rfl

@[simp] theorem record_afterAct (s : Recorder σ) (a : Act) :
    (Dialogue.afterAct s a).record = s.record := by
  cases a <;> rfl

end Recorder

/-! ### Runs -/

namespace Dialogue

/-- The exchange that an event is. -/
def Event.exchange? : Event → Option Exchange
  | .acted _ => none
  | .asked q r => some (q, r)

/-- The run with another prompter behind it. -/
def Run.mapPrompter {τ : Type} (f : σ → τ) (r : Run α σ) : Run α τ :=
  ⟨r.outcome, r.events, f r.prompter⟩

/-- A run with a recorder is the run with the prompter behind it. -/
theorem run_inner (d : Dialogue α) (s : Recorder σ) :
    d.run s.inner = (d.run s).mapPrompter Recorder.inner := by
  induction d generalizing s with
  | done a => rfl
  | fail e => rfl
  | act a next ih =>
    rw [run, run, Recorder.afterAct_inner, ih]
    rfl
  | ask q next ih =>
    rw [run, run, Recorder.ask_inner]
    simp only [Prod.map_fst, Prod.map_snd, id_eq, ih]
    rfl

/-- The record of a run is what was asked in it. -/
theorem record_run (d : Dialogue α) (s : Recorder σ) :
    (d.run s).prompter.record = s.record ++ (d.run s).events.filterMap Event.exchange? := by
  induction d generalizing s with
  | done a => simp [run]
  | fail e => simp [run]
  | act a next ih =>
    simp only [run, ih, Recorder.record_afterAct, List.filterMap_cons, Event.exchange?]
  | ask q next ih =>
    simp only [run, ih, Recorder.ask_eq, List.filterMap_cons, Event.exchange?, List.append_assoc,
      List.singleton_append]

end Dialogue

end PipelineScript
