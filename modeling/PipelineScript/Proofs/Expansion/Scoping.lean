import Mathlib.Tactic.Common
import PipelineScript.Proofs.Expansion.Unasked
import PipelineScript.Proofs.Placeholder

/-!
# Scopes

The steps of a template see the values of its own parameters. A value of an enclosing scope comes
to them only if the reference hands it on: the scope of a template is made anew from the values of
the reference, which are worked out in the scope around it. So what steps come to, with all the
templates beneath them, is decided by the parameters that the steps themselves name.
-/

namespace PipelineScript

/-- The parameters that the values of a reference name. -/
def TemplateReference.named (s : Settings) (r : TemplateReference) : List String :=
  r.parameters.flatMap fun entry => namedIn s.workingDirectory entry.2

/-- The parameters that a step names itself, in its script and in the values of its reference. -/
def Step.named (s : Settings) (step : Step) : List String :=
  (step.command.elim [] fun c => namedIn s.workingDirectory c.script) ++
    step.template.elim [] fun r => r.named s

namespace Expansion

variable {s : Settings} {base : Path} {depth : Nat} {b b' : Bindings}

theorem command_congr {c : StepCommand}
    (h : b.AgreeOn (namedIn s.workingDirectory c.script) b') : command s b c = command s b' c := by
  rw [command, command, sanitize_congr h]

/-- A reference hands on no more than its values name. -/
theorem referenceBindings_congr {r : TemplateReference} (h : b.AgreeOn (r.named s) b') :
    referenceBindings s b r = referenceBindings s b' r := by
  have hvalues : ∀ entry ∈ r.parameters, (entry.1, sanitize s.workingDirectory b entry.2) =
      (entry.1, sanitize s.workingDirectory b' entry.2) := fun entry hentry => by
    rw [sanitize_congr fun name hname => h name (List.mem_flatMap.2 ⟨entry, hentry, hname⟩)]
  rw [referenceBindings, referenceBindings, List.map_congr_left hvalues]

/-- A parameter that a reference does not supply has no value in the template, even if it has one
in the scope of the reference. -/
theorem lookup_referenceBindings_eq_none {r : TemplateReference} {name : String}
    (h : name ∉ r.parameters.map Prod.fst) (b : Bindings) :
    (referenceBindings s b r).lookup name = none := by
  rw [referenceBindings, ← Option.not_isSome_iff_eq_none, Bindings.isSome_lookup_ofEntries,
    List.map_map]
  exact h

theorem reference_congr (nested : Path → Bindings → Dialogue Unit) {r : TemplateReference}
    (h : b.AgreeOn (r.named s) b') :
    reference s nested ⟨base, b, depth⟩ r = reference s nested ⟨base, b', depth⟩ r := by
  rw [reference, reference, referenceBindings_congr h]
  rfl

/-- Steps do the same in two scopes that agree on the parameters that the steps name. -/
theorem stepsWith_congr (nested : Path → Bindings → Dialogue Unit) {l : List Step}
    (h : ∀ step ∈ l, b.AgreeOn (step.named s) b') :
    stepsWith s nested ⟨base, b, depth⟩ l = stepsWith s nested ⟨base, b', depth⟩ l := by
  induction l with
  | nil => rfl
  | cons step rest ih =>
    have hstep := h step List.mem_cons_self
    have htemplate : step.template.elim (.done ()) (reference s nested ⟨base, b, depth⟩) =
        step.template.elim (.done ()) (reference s nested ⟨base, b', depth⟩) := by
      cases ht : step.template with
      | none => rfl
      | some r =>
        exact reference_congr nested fun name hname =>
          hstep name (List.mem_append_right _ (by rwa [ht]))
    have hcommand : step.command.elim (.done ()) (command s b) =
        step.command.elim (.done ()) (command s b') := by
      cases hc : step.command with
      | none => rfl
      | some c =>
        exact command_congr fun name hname => hstep name (List.mem_append_left _ (by rwa [hc]))
    rw [stepsWith, stepsWith, htemplate, hcommand, ih fun step hmem => h step (.tail _ hmem)]

end Expansion

open Expansion Expander

variable {σ : Type} [Prompting σ]

/-- Values do not leak into templates. Under bindings that agree on the parameters that steps name
in their own scripts and in the values of their own references, the run of their expansion is the
same: how it ends, what is loaded, asked, shown and added to the script, and the prompter behind
it. So a reference runs its template in the same way under bindings that agree on the parameters
that the values of the reference name, and a parameter that it does not supply has no value in the
template. -/
theorem run_steps_of_agreeOn (s : Settings) (library : Library) (base : Path) (depth : Nat)
    (session : Session) (prompter : σ) :
    let steps (b : Bindings) (l : List Step) :=
      (processSteps s library l ⟨base, b, depth⟩ session).run prompter
    let nested (path : Path) (b : Bindings) := resolveTemplate s library path b (depth + 1)
    let reference (b : Bindings) (r : TemplateReference) :=
      (processReference s nested ⟨base, b, depth⟩ r session).run prompter
    (∀ l b b', (∀ step ∈ l, Bindings.AgreeOn (Step.named s step) b b') →
        steps b l = steps b' l) ∧
      (∀ r b b', Bindings.AgreeOn (TemplateReference.named s r) b b' →
        reference b r = reference b' r) ∧
      ∀ r b name, name ∉ r.parameters.map Prod.fst →
        (referenceBindings s b r).lookup name = none := by
  intro steps nested reference
  refine ⟨fun l b b' h => ?_, fun r b b' h => ?_, fun r b name h => ?_⟩
  · simp only [steps, processSteps_eq, Expansion.steps, stepsWith_congr _ h]
  · simp only [reference, processReference, referenceBindings_congr h]
    rfl
  · exact lookup_referenceBindings_eq_none h b

/-- A template that names a parameter which the reference to it does not supply. -/
def undeclaringFiles : FileSystem :=
  .ofFiles [(["t"], "steps:\n- script: lint $\x7b\x7bparameters.y\x7d\x7d" ++
    " $\x7b\x7bparameters.x\x7d\x7d\n")]

/-- The value of `v` is handed on; that of `x` does not leak, though the template names it. -/
theorem run_steps_of_agreeOn_undeclaring :
    let run (b : Bindings) := (processSteps {} undeclaringFiles.library
      [⟨some ⟨"t", [("y", "$\x7b\x7bparameters.v\x7d\x7d")]⟩, none⟩] ⟨⟨"/"⟩, b, 0⟩
        .undecided).run (⟨""⟩ : Unattended)
    run [("v", "web"), ("x", "1")] = run [("v", "web")] ∧
      (run [("v", "web")]).entries =
        [.command ⟨unnamedCommand, "lint web $\x7b\x7bparameters.x\x7d\x7d"⟩] := by
  intro run
  obtain ⟨hsteps, -⟩ := run_steps_of_agreeOn {} undeclaringFiles.library ⟨"/"⟩ 0 .undecided
    (⟨""⟩ : Unattended)
  refine ⟨hsteps _ _ _ fun step hstep name hname => ?_, by decide +kernel⟩
  have hnamed : Step.named {} ⟨some ⟨"t", [("y", "$\x7b\x7bparameters.v\x7d\x7d")]⟩, none⟩ =
      ["v"] := by
    decide +kernel
  rw [List.mem_singleton.1 hstep, hnamed, List.mem_singleton] at hname
  rw [hname]
  decide

end PipelineScript
