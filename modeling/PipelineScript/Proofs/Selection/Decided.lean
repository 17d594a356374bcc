import PipelineScript.Proofs.Dialogue.Performance
import PipelineScript.Selection

/-!
# Selections that have been decided

A selection asks about commands only in an interactive run and only while nothing has been decided.
In every other case it lets a whole dialogue through, or it lets through all but the commands and
the notices.
-/

namespace PipelineScript

namespace Dialogue

variable {α β σ : Type} [Prompting σ]

/-- A dialogue whose result is changed afterwards runs as before. -/
theorem run_bind_done (d : Dialogue α) (g : α → β) (s : σ) :
    (d.bind fun a => .done (g a)).run s =
      ⟨(d.run s).outcome.map g, (d.run s).events, (d.run s).prompter⟩ := by
  rw [run_bind]
  rcases d.run s with ⟨e | a, events, s'⟩
  · rfl
  · simp only [run, List.append_nil, Except.map]

end Dialogue

namespace Selection

variable {α : Type}

/-- A selection that neither asks nor skips lets everything through. -/
theorem select_eq_bind {interactive : Bool} {s : Session} (hskip : s.skipsAll = false)
    (hask : (interactive && s.isUndecided) = false) (d : Dialogue α) :
    select interactive s d = d.bind fun _ => .done (.continued s) := by
  induction d with
  | done a => rfl
  | fail e => rfl
  | ask q next ih =>
    simp only [select, Dialogue.bind, ih]
  | act a next ih =>
    cases a with
    | load path depth => simp only [select, Dialogue.bind, ih]
    | job name => simp only [select, Dialogue.bind, ih]
    | emit c =>
      simp only [select, Dialogue.bind, ih, hskip, hask, Bool.false_eq_true, if_false]
    | notice message colour =>
      simp only [select, Dialogue.bind, ih, hskip, Bool.false_eq_true, if_false]

/-- A selection lets everything through when the run is not interactive. -/
theorem select_undecided (d : Dialogue α) :
    select false .undecided d = d.bind fun _ => .done (.continued .undecided) :=
  select_eq_bind rfl rfl d

end Selection

end PipelineScript
