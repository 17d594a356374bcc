import Mathlib.Tactic.Common
import PipelineScript.Proofs.Expansion.Unasked

/-!
# The recursion of the expansion

A template is expanded by means of the templates that its steps refer to, with a counter of the
depth that is put up for them and compared with the bound. Nothing but the counter ends that
recursion, since a template may refer to itself. It is stated here for any way of counting that is
right as far as a machine word goes: past the bound a template is refused before anything is
counted, so what the counter does at the end of the word makes no difference, and the recursion has
one solution.
-/

namespace PipelineScript

namespace Expansion

open Dialogue

/-- A counter in a machine word is put up by one while there is room in the word. -/
def CountsInWord (next : Nat → Nat) : Prop :=
  ∀ n, n < UInt64.size - 1 → next n = n + 1

section Recursion

variable (s : Settings) (library : Library) (next : Nat → Nat)

/-- One turn of the recursion: the expansion of a template by means of `expand`. -/
def turn (expand : Path → Bindings → Nat → Dialogue Unit) (path : Path) (b : Bindings)
    (depth : Nat) : Dialogue Unit :=
  if s.maxTemplateDepth < depth then .fail (.nestedTooDeep path s.maxTemplateDepth)
  else do
    .perform (.load path depth)
    let t := Template.ofNode (← .ofExcept (library path))
    let b ← bindParameters (templateName path) t.parameters b
    stepsWith s (fun path b => expand path b (next depth)) ⟨path.directory, b, depth⟩ t.steps

/-- A function solves the recursion if it is its own turn while the counter is at most one past
the bound. -/
def Solves (expand : Path → Bindings → Nat → Dialogue Unit) : Prop :=
  ∀ path b depth, depth ≤ s.maxTemplateDepth + 1 →
    expand path b depth = turn s library next expand path b depth

variable {s library next}

/-- Within the bound a template is loaded, its parameters are given their values, and its steps are
expanded. -/
theorem template_of_le {depth : Nat} (h : depth ≤ s.maxTemplateDepth) (path : Path)
    (b : Bindings) :
    template s library path b depth =
      .act (.load path depth) fun _ => (Dialogue.ofExcept (library path)).bind fun n =>
        (bindParameters (templateName path) (Template.ofNode n).parameters b).bind fun b' =>
          steps s library ⟨path.directory, b', depth⟩ (Template.ofNode n).steps := by
  have hlevels : s.maxTemplateDepth + 1 - depth = s.maxTemplateDepth - depth + 1 := by omega
  have hnested : templateFrom s library (s.maxTemplateDepth - depth) (depth + 1) =
      fun path b => template s library path b (depth + 1) := by
    funext path' b'
    rw [template, Nat.add_sub_add_right]
  rw [template, hlevels, templateFrom_succ, hnested]
  rfl

theorem turn_of_lt {expand : Path → Bindings → Nat → Dialogue Unit} {path : Path} {b : Bindings}
    {depth : Nat} (h : s.maxTemplateDepth < depth) :
    turn s library next expand path b depth = .fail (.nestedTooDeep path s.maxTemplateDepth) :=
  if_pos h

variable (hnext : CountsInWord next) (hmax : s.maxTemplateDepth < UInt64.size - 1)
include hnext hmax

/-- The expansion of templates solves the recursion. -/
theorem solves_template : Solves s library next (template s library) := by
  intro path b depth hdepth
  by_cases hdeep : s.maxTemplateDepth < depth
  · have hlevels : s.maxTemplateDepth + 1 - depth = 0 := by omega
    rw [turn_of_lt hdeep, template, hlevels]
    rfl
  · rw [template_of_le (Nat.le_of_not_lt hdeep), turn, if_neg hdeep, hnext depth (by omega)]
    rfl

/-- A solution of the recursion is the expansion of templates. -/
theorem eq_template_of_solves {expand : Path → Bindings → Nat → Dialogue Unit}
    (hsolves : Solves s library next expand) {depth : Nat} (hdepth : depth ≤ s.maxTemplateDepth + 1)
    (path : Path) (b : Bindings) : expand path b depth = template s library path b depth := by
  -- The number of levels that are left is what decreases.
  generalize hlevels : s.maxTemplateDepth + 1 - depth = levels
  induction levels generalizing depth path b with
  | zero =>
    rw [hsolves path b depth hdepth, turn_of_lt (by omega), template, hlevels]
    rfl
  | succ levels ih =>
    have hnested : (fun path b => expand path b (next depth)) =
        fun path b => template s library path b (depth + 1) := by
      funext path' b'
      rw [hnext depth (by omega)]
      exact ih (by omega) path' b' (by omega)
    rw [hsolves path b depth hdepth, turn, if_neg (by omega), hnested, template_of_le (by omega)]
    rfl

end Recursion

/-! ### Calls -/

/-- A call of the expansion of a template: the path of the template and what the counter shows. -/
structure Call where
  path : Path
  depth : Nat
  deriving DecidableEq

section Calls

variable (s : Settings) (library : Library) (next : Nat → Nat)

/-- Steps in a directory call for each template that they refer to and that is not left out. -/
def StepsCall (base : Path) (depth : Nat) (l : List Step) (call : Call) : Prop :=
  ∃ step ∈ l, ∃ r, step.reference? s = some r ∧ call = ⟨base.join r.path, next depth⟩

/-- A call within the bound leads to the calls of the steps in the template. -/
def LeadsTo (caller callee : Call) : Prop :=
  caller.depth ≤ s.maxTemplateDepth ∧ ∃ n, library caller.path = .ok n ∧
    StepsCall s next caller.path.directory caller.depth (Template.ofNode n).steps callee

/-- The calls to which steps lead, through any number of templates. -/
inductive Called (base : Path) (depth : Nat) (l : List Step) : Call → Prop
  | directly {call : Call} (h : StepsCall s next base depth l call) : Called base depth l call
  | nested {caller callee : Call} (h : Called base depth l caller)
      (h' : LeadsTo s library next caller callee) : Called base depth l callee

variable {s library next} {base : Path} {depth : Nat} {l : List Step} {call : Call}

theorem StepsCall.depth_eq (h : StepsCall s next base depth l call) : call.depth = next depth := by
  obtain ⟨step, -, r, -, rfl⟩ := h
  rfl

variable (hnext : CountsInWord next) (hmax : s.maxTemplateDepth < UInt64.size - 1)
include hnext hmax

/-- No call is counted further than one past the bound. -/
theorem Called.depth_le (hdepth : depth ≤ s.maxTemplateDepth)
    (h : Called s library next base depth l call) :
    depth < call.depth ∧ call.depth ≤ s.maxTemplateDepth + 1 := by
  induction h with
  | directly h =>
    rw [h.depth_eq, hnext depth (by omega)]
    omega
  | nested h h' ih =>
    obtain ⟨hcaller, n, -, hcallee⟩ := h'
    rw [hcallee.depth_eq, hnext _ (by omega)]
    omega

/-- A call leads to no endless nest of calls. -/
theorem acc_leadsTo (call : Call) : Acc (fun callee caller => LeadsTo s library next caller callee)
    call := by
  generalize hlevels : s.maxTemplateDepth + 1 - call.depth = levels
  induction levels generalizing call with
  | zero =>
    refine ⟨_, fun callee hcallee => ?_⟩
    have hcaller := hcallee.1
    omega
  | succ levels ih =>
    refine ⟨_, fun callee hcallee => ih callee ?_⟩
    obtain ⟨hcaller, n, -, hsteps⟩ := hcallee
    rw [hsteps.depth_eq, hnext _ (by omega)]
    omega

end Calls

end Expansion

end PipelineScript
