import PipelineScript.Dialogue

/-!
# Dialogues that ask nothing

A dialogue that asks nothing is the list of its acts and its end, and it runs in the same way with
every prompter. A dialogue that asks something on some path may still ask nothing on the path that
is taken; `Performs` speaks of a dialogue that has one path only.
-/

namespace PipelineScript

/-- What an act adds to the script. -/
def Act.added? (a : Act) : Option Script.Entry :=
  Dialogue.Event.entry? (.acted a)

namespace Dialogue

variable {α β σ : Type} {d : Dialogue α} {f : α → Dialogue β} {a : α} {e : GenerationError}
  {acts acts' : List Act} {r : Except GenerationError α} {r' : Except GenerationError β}

@[simp]
theorem bind_eq_bind (d : Dialogue α) (f : α → Dialogue β) : d >>= f = d.bind f := rfl

@[simp]
theorem bind_done (a : α) (f : α → Dialogue β) : (done a).bind f = f a := rfl

/-- What comes behind a dialogue is run only if the dialogue succeeds. -/
theorem run_bind [Prompting σ] (d : Dialogue α) (f : α → Dialogue β) (s : σ) :
    (d.bind f).run s =
      match d.run s with
      | ⟨.error e, events, s'⟩ => ⟨.error e, events, s'⟩
      | ⟨.ok a, events, s'⟩ =>
        let r := (f a).run s'
        ⟨r.outcome, events ++ r.events, r.prompter⟩ := by
  induction d generalizing s with
  | done a => rfl
  | fail e => rfl
  | act a next ih =>
    rw [bind, run, run, ih]
    rcases (next ()).run (afterAct s a) with ⟨_ | _, events, s'⟩ <;> rfl
  | ask q next ih =>
    rw [bind, run, run, ih]
    rcases (next (Prompting.ask q s).1).run (Prompting.ask q s).2 with ⟨_ | _, events, s'⟩ <;> rfl

/-- The dialogue asks nothing, does these acts in order and ends with this result. -/
inductive Performs : Dialogue α → List Act → Except GenerationError α → Prop
  | done (a : α) : Performs (.done a) [] (.ok a)
  | fail (e : GenerationError) : Performs (.fail e) [] (.error e)
  | act (a : Act) {next : Unit → Dialogue α} {acts : List Act} {r : Except GenerationError α}
      (h : Performs (next ()) acts r) : Performs (.act a next) (a :: acts) r

namespace Performs

theorem perform (a : Act) : Performs (.perform a) [a] (.ok ()) :=
  .act a (.done ())

theorem bind (h : Performs d acts (.ok a)) (h' : Performs (f a) acts' r') :
    Performs (d.bind f) (acts ++ acts') r' := by
  generalize hr : Except.ok a = r at h
  induction h with
  | done b =>
    cases hr
    exact h'
  | fail e => cases hr
  | act b h ih => exact .act b (ih hr)

/-- What would follow a failure is not done. -/
theorem bind_error (h : Performs d acts (.error e)) (f : α → Dialogue β) :
    Performs (d.bind f) acts (.error e) := by
  generalize hr : Except.error e = r at h
  induction h with
  | done b => cases hr
  | fail e' =>
    cases hr
    exact .fail e
  | act b h ih => exact .act b (ih hr)

variable [Prompting σ]

/-- A dialogue that asks nothing has the same outcome and the same events with every prompter. -/
theorem run (h : Performs d acts r) (s : σ) :
    (d.run s).outcome = r ∧ (d.run s).events = acts.map .acted := by
  induction h generalizing s with
  | done a => exact ⟨rfl, rfl⟩
  | fail e => exact ⟨rfl, rfl⟩
  | act b h ih =>
    obtain ⟨houtcome, hevents⟩ := ih (afterAct s b)
    exact ⟨houtcome, congrArg (Event.acted b :: ·) hevents⟩

/-- The entries that a dialogue adds to the script when it asks nothing. -/
theorem run_entries (h : Performs d acts r) (s : σ) :
    (d.run s).entries = acts.filterMap Act.added? := by
  rw [Run.entries, (h.run s).2, List.filterMap_map]
  rfl

end Performs

end Dialogue

end PipelineScript
