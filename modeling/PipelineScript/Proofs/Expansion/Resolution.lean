import PipelineScript.Proofs.Expansion.Origin
import PipelineScript.Proofs.Placeholder.Fragment

/-!
# Where commands get their values

A command that is added to the script is made of the script of a step and of the values that the
parameters of its template had. Those were supplied by the reference, or they were typed because the
template declares them and the reference did not supply them. A script that names no others is
resolved: no placeholder is left of it, if no value brings in a new one.
-/

namespace PipelineScript

open Expansion Dialogue

/-! ### The values of a template -/

/-- The bindings of a template behind the questions for those of its parameters that were not
supplied. -/
inductive Completed (typed : String → String → Prop) : List String → Bindings → Bindings → Prop
  | done (b : Bindings) : Completed typed [] b b
  | supplied {name : String} {names : List String} {b b' : Bindings}
      (hname : (b.lookup name).isSome) (h : Completed typed names b b') :
      Completed typed (name :: names) b b'
  | typed {name value : String} {names : List String} {b b' : Bindings}
      (hname : (b.lookup name).isSome = false) (hvalue : typed name value)
      (h : Completed typed names (b.insert (name, value)) b') :
      Completed typed (name :: names) b b'

variable {typed : String → String → Prop} {names : List String} {b b' : Bindings}

/-- Each parameter that is declared or supplied has a value in the end, which was supplied or
typed. -/
theorem Completed.exists_lookup (h : Completed typed names b b') {name : String}
    (hname : name ∈ names ∨ (b.lookup name).isSome) :
    ∃ value, b'.lookup name = some value ∧ (b.lookup name = some value ∨ typed name value) := by
  induction h with
  | done b =>
    obtain ⟨value, hvalue⟩ := Option.isSome_iff_exists.1 (hname.resolve_left List.not_mem_nil)
    exact ⟨value, hvalue, .inl hvalue⟩
  | @supplied first names b b' hfirst h ih =>
    refine ih (hname.elim (fun hmem => ?_) .inr)
    rcases List.mem_cons.1 hmem with rfl | hmem
    · exact .inr hfirst
    · exact .inl hmem
  | @typed first value names b b' hfirst hvalue h ih =>
    have hbound : name ∈ names ∨ ((b.insert (first, value)).lookup name).isSome := by
      rw [Bindings.isSome_lookup_insert, Bool.or_eq_true, beq_iff_eq]
      rcases hname with hmem | hsome
      · exact (List.mem_cons.1 hmem).elim (fun heq => .inr (.inl heq)) .inl
      · exact .inr (.inr hsome)
    obtain ⟨value', hlookup, horigin⟩ := ih hbound
    refine ⟨value', hlookup, horigin.elim (fun hinserted => ?_) .inr⟩
    obtain hold | ⟨rfl, rfl⟩ := Bindings.lookup_insert hinserted
    · exact .inl hold
    · exact .inr hvalue

/-! ### Where a command is from -/

section Sources

variable (s : Settings) (library : Library) (entry : Path) (p : Pipeline)
  (allowed : Question → Except PromptError Response → Prop)

/-- The value is an allowed answer to the question for a parameter of the template. -/
def Typed (path : Path) (name value : String) : Prop :=
  allowed (parameterQuestion name (templateName path)) (.ok (.text value))

/-- An expansion may come to the template at this path with these values supplied, as long as only
allowed answers are given. -/
inductive Invoked : Path → Bindings → Prop
  | ofJob {j : Job} {step : Step} {r : TemplateReference} (hj : j ∈ p.jobs)
      (hdeclares : j.declaresSteps) (hstep : step ∈ j.steps) (hr : step.reference? s = some r) :
      Invoked (entry.directory.join r.path) (referenceBindings s [] r)
  | ofTemplate {path : Path} {b b' : Bindings} {n : Node} {step : Step} {r : TemplateReference}
      (h : Invoked path b) (hn : library path = .ok n)
      (hb : Completed (Typed allowed path) (Template.ofNode n).parameters b b')
      (hstep : step ∈ (Template.ofNode n).steps) (hr : step.reference? s = some r) :
      Invoked (path.directory.join r.path) (referenceBindings s b' r)

/-- The command is that of one of the steps under these bindings, and it is kept. -/
def IsOwn (b : Bindings) (steps : List Step) (c : Command) : Prop :=
  ∃ step ∈ steps, ∃ own, step.command = some own ∧ Flattening.keeps s own ∧
    c = ⟨own.label, sanitize s.workingDirectory b own.script⟩

/-- The command is from the own steps of the template at this path, which was come to with these
values supplied. -/
def IsFromTemplate (path : Path) (b : Bindings) (c : Command) : Prop :=
  ∃ n b', library path = .ok n ∧
    Completed (Typed allowed path) (Template.ofNode n).parameters b b' ∧
    IsOwn s b' (Template.ofNode n).steps c

/-- The command is from the own steps of a job, or from those of a template to which the expansion
may come. -/
def HasSource (c : Command) : Prop :=
  (∃ j ∈ p.jobs, IsOwn s [] j.steps c) ∨
    ∃ path b, Invoked s library entry p allowed path b ∧ IsFromTemplate s library allowed path b c

end Sources

namespace Expansion

variable {s : Settings} {library : Library} {entry : Path} {p : Pipeline}
  {allowed : Question → Except PromptError Response → Prop}

/-- What holds of the commands that an act adds. -/
def Adds (P : Command → Prop) : Act → Prop
  | .emit c => P c
  | _ => True

theorem under_bindParameters {P : Act → Prop} (path : Path) (names : List String) (b : Bindings) :
    Under allowed P (Completed (Typed allowed path) names b)
      (bindParameters (templateName path) names b) := by
  induction names generalizing b with
  | nil => exact .done (.done b)
  | cons name names ih =>
    rw [bindParameters]
    split_ifs with hname
    · exact (ih b).imp fun b' hb' => .supplied hname hb'
    · have hrequest : Under allowed P (Typed allowed path name)
          (requestParameter name (templateName path)) := by
        refine .ask _ fun r hr => ?_
        rcases r with (_ | _ | _) | c | value
        · exact .fail _
        · exact .fail _
        · exact .fail _
        · exact .fail _
        · exact .done hr
      exact hrequest.bind fun value hvalue => (ih _).imp fun b' hb' =>
        .typed (Bool.eq_false_iff.2 hname) hvalue hb'

theorem under_command {P : Command → Prop} {b : Bindings} {steps : List Step} {step : Step}
    {own : StepCommand} (hP : ∀ c, IsOwn s b steps c → P c) (hstep : step ∈ steps)
    (hown : step.command = some own) :
    Under allowed (Adds P) (fun _ => True) (command s b own) := by
  cases hkeeps : Flattening.keeps s own with
  | true =>
    rw [command_of_keeps hkeeps]
    exact .act (hP _ ⟨step, hstep, own, hown, hkeeps, rfl⟩) (.done trivial)
  | false =>
    obtain hpassed | ⟨message, colour, hwarned⟩ := command_of_not_keeps hkeeps b
    · rw [hpassed]
      exact .done trivial
    · rw [hwarned]
      exact .act trivial (.done trivial)

/-- All that is done in a template is from templates to which the expansion may come. -/
theorem under_templateFrom {levels depth : Nat} {path : Path} {b : Bindings}
    (h : Invoked s library entry p allowed path b) :
    Under allowed (Adds (HasSource s library entry p allowed)) (fun _ => True)
      (templateFrom s library levels depth path b) := by
  induction levels generalizing depth path b with
  | zero => exact .fail _
  | succ levels ih =>
    rw [templateFrom_succ]
    refine .act trivial ?_
    cases hn : library path with
    | error e => exact .fail e
    | ok n =>
      rw [Dialogue.ofExcept, bind_done]
      refine (under_bindParameters path _ b).bind fun b' hb' => under_stepsWith
        (fun step hstep own hown => under_command
          (fun c hc => .inr ⟨path, b, h, n, b', hn, hb', hc⟩) hstep hown)
        fun step hstep r hr => ih (.ofTemplate h hn hb' hstep hr)

theorem under_jobs {js : List Job} (hjs : ∀ j ∈ js, j ∈ p.jobs) :
    Under allowed (Adds (HasSource s library entry p allowed)) (fun _ => True)
      (jobs s library entry.directory js) := by
  induction js with
  | nil => exact .done trivial
  | cons j js ih =>
    obtain ⟨hj, hjs⟩ := List.forall_mem_cons.1 hjs
    rw [jobs_cons]
    refine .bind (Q := fun _ => True) ?_ fun _ _ => ih hjs
    split_ifs with hdeclares
    · have hsteps : Under allowed (Adds (HasSource s library entry p allowed)) (fun _ => True)
          (Expansion.steps s library (.root entry.directory) j.steps) :=
        under_stepsWith
          (fun step hstep own hown => under_command (fun c hc => .inl ⟨j, hj, hc⟩) hstep hown)
          fun step hstep r hr => under_templateFrom (.ofJob hj hdeclares hstep hr)
      exact .act trivial hsteps
    · exact .done trivial

end Expansion

/-! ### Resolved commands -/

/-- The scripts of a template are made of fragments, and each parameter that they name is declared
or supplied. -/
def Template.IsResolvable (t : Template) (supplied : Bindings) : Prop :=
  ∀ step ∈ t.steps, ∀ own, step.command = some own →
    ∃ l : List Fragment, own.script = String.ofList (l.flatMap Fragment.written) ∧
      ∀ f ∈ l, f.IsProper ∧
        ∀ name, f.name? = some name → name ∈ t.parameters ∨ (supplied.lookup name).isSome

variable {s : Settings} {library : Library}
  {allowed : Question → Except PromptError Response → Prop}

/-- No placeholder is left in the commands of a template that is resolvable, if there is no dollar
in what is put in. -/
theorem IsFromTemplate.not_holdsPlaceholder {path : Path} {c : Command} {n : Node}
    (h : IsFromTemplate s library allowed path b c) (hn : library path = .ok n)
    (hdirectory : '$' ∉ s.workingDirectory.toList)
    (hsupplied : ∀ name value, b.lookup name = some value → '$' ∉ value.toList)
    (htyped : ∀ name value, Typed allowed path name value → '$' ∉ value.toList)
    (hresolvable : (Template.ofNode n).IsResolvable b) : ¬HoldsPlaceholder c.text := by
  obtain ⟨n', b', hn', hb', step, hstep, own, hown, -, rfl⟩ := h
  obtain rfl := Except.ok.inj (hn.symm.trans hn')
  obtain ⟨l, hscript, hl⟩ := hresolvable step hstep own hown
  rw [hscript]
  refine not_holdsPlaceholder_sanitize hdirectory (fun f hf => (hl f hf).1)
    fun f hf name hname => ?_
  obtain ⟨value, hvalue, horigin⟩ := hb'.exists_lookup ((hl f hf).2 name hname)
  exact ⟨value, hvalue, horigin.elim (hsupplied name value) (htyped name value)⟩

variable {σ : Type} [Prompting σ]

/-- Each command that a run adds to the script is from the own steps of a job or of a template, with
the values that were supplied to the template and, for the other parameters that it declares, those
that were typed in the run. If the scripts of a template are made of literal text and placeholders
and name no other parameters, then no placeholder is left in the commands from its own steps,
provided that neither the working directory nor a value that was supplied to it or typed for it has
a dollar. -/
theorem expandPipeline_resolved (s : Settings) (library : Library) (entry : Path) (p : Pipeline)
    (prompter : σ) :
    let r := (expandPipeline s library p entry.directory).run prompter
    let answered (q : Question) (a : Except PromptError Response) : Prop := .asked q a ∈ r.events
    (∀ c, .acted (.emit c) ∈ r.events → HasSource s library entry p answered c) ∧
      ∀ path b n, library path = .ok n → (Template.ofNode n).IsResolvable b →
        '$' ∉ s.workingDirectory.toList →
        (∀ name value, b.lookup name = some value → '$' ∉ value.toList) →
        (∀ name value, Typed answered path name value → '$' ∉ value.toList) →
        ∀ c, IsFromTemplate s library answered path b c → ¬HoldsPlaceholder c.text := by
  intro r answered
  constructor
  · intro c hc
    have hacts : Under answered (Adds (HasSource s library entry p answered)) (fun _ => True)
        (Expansion.pipeline s library p entry.directory) :=
      under_jobs fun _ hj => hj
    have hselected := Selection.under_select (fun _ _ => trivial) hacts s.interactive .undecided
    rw [← expandPipeline_eq_select] at hselected
    exact hselected.run (fun q a ha => ha) hc
  · intro path b n hn hresolvable hdirectory hsupplied htyped c hc
    exact hc.not_holdsPlaceholder hn hdirectory hsupplied htyped hresolvable

/-- A template that names the working directory, a parameter that it declares and one that its
reference supplies. -/
def resolvableFiles : FileSystem :=
  .ofFiles
    [(["p"], "jobs:\n- steps:\n  - template: t/a\n    parameters:\n      y: web\n"),
     (["t", "a"], "parameters: [x]\nsteps:\n- script: cd $(System.DefaultWorkingDirectory) && " ++
       "$HOME/run $\x7b\x7b parameters.x \x7d\x7d $\x7b\x7bparameters.y\x7d\x7d\n")]

/-- The script of the template in `resolvableFiles`. -/
def resolvableScript : List Fragment :=
  [.literal "cd ".toList, .directory, .literal " && $HOME/run ".toList,
    .parameter ⟨[' '], ['x'], [' ']⟩, .literal [' '], .parameter ⟨[], ['y'], []⟩]

deriving instance DecidableEq for Dialogue.Event

/-- The value of `x` is typed and that of `y` supplied. The dollar of `HOME` is none of a
placeholder. -/
theorem expandPipeline_resolved_typed :
    let s : Settings := { workingDirectory := "/repo" }
    let entry : Path := ⟨"/p"⟩
    let p : Pipeline := ⟨[⟨unnamedJob, [⟨some ⟨"t/a", [("y", "web")]⟩, none⟩], true⟩]⟩
    let r := (expandPipeline s resolvableFiles.library p entry.directory).run
      (Scripted.ofResponses [.text "api"])
    let c : Command := ⟨unnamedCommand, "cd /repo && $HOME/run api web"⟩
    Pipeline.load resolvableFiles.library entry = .ok p ∧ .acted (.emit c) ∈ r.events ∧
      ¬HoldsPlaceholder c.text := by
  intro s entry p r c
  let own : StepCommand :=
    ⟨none, none, String.ofList (resolvableScript.flatMap Fragment.written)⟩
  obtain ⟨n, hn, ht⟩ := FileSystem.exists_node
    (show (resolvableFiles.library ⟨"/t/a"⟩).map Template.ofNode =
      .ok ⟨["x"], [⟨none, some own⟩]⟩ by decide +kernel)
  have hevents : r.events = [.acted (.job unnamedJob), .acted (.load ⟨"/t/a"⟩ 1),
      .asked (parameterQuestion "x" "a") (.ok (.text "api")), .acted (.emit c)] := by
    decide +kernel
  refine ⟨by decide +kernel, by rw [hevents]; decide, ?_⟩
  have hx : Placeholder.Proper ⟨[' '], ['x'], [' ']⟩ :=
    ⟨List.forall_mem_singleton.2 rfl, List.cons_ne_nil _ _, List.forall_mem_singleton.2 rfl,
      List.forall_mem_singleton.2 rfl⟩
  have hy : Placeholder.Proper ⟨[], ['y'], []⟩ :=
    ⟨List.forall_mem_nil _, List.cons_ne_nil _ _, List.forall_mem_singleton.2 rfl,
      List.forall_mem_nil _⟩
  have hresolvable : Template.IsResolvable ⟨["x"], [⟨none, some own⟩]⟩ [("y", "web")] := by
    intro step hstep own' hown'
    obtain rfl := List.mem_singleton.1 hstep
    obtain rfl := Option.some.inj hown'
    refine ⟨resolvableScript, rfl, ?_⟩
    have hliteral {cs : List Char} (h : Text.isGuarded ['\x7b', '(', '$'] cs) :
        (Fragment.literal cs).IsProper ∧ ∀ name, (Fragment.literal cs).name? = some name →
          name ∈ ["x"] ∨ (List.lookup name [("y", "web")]).isSome :=
      ⟨h, fun name hname => nomatch hname⟩
    simp only [resolvableScript, List.forall_mem_cons]
    refine ⟨hliteral (by decide), ⟨trivial, fun name hname => nomatch hname⟩,
      hliteral (by decide), ⟨⟨hx, by decide⟩, fun name hname => ?_⟩, hliteral (by decide),
      ⟨⟨hy, by decide⟩, fun name hname => ?_⟩, fun f hf => absurd hf List.not_mem_nil⟩
    · rw [← Option.some.inj hname]
      decide
    · rw [← Option.some.inj hname]
      decide
  obtain ⟨-, hresolved⟩ := expandPipeline_resolved s resolvableFiles.library entry p
    (Scripted.ofResponses [.text "api"])
  refine hresolved ⟨"/t/a"⟩ [("y", "web")] n hn (ht ▸ hresolvable) (by decide)
    (fun name value hvalue => ?_) (fun name value htyped => ?_) c ?_
  · obtain hnone | ⟨-, rfl⟩ := Bindings.lookup_insert (b := []) hvalue
    · cases hnone
    · decide
  · have hmem : .asked (parameterQuestion name (templateName ⟨"/t/a"⟩)) (.ok (.text value)) ∈
        r.events := htyped
    simp only [hevents, List.mem_cons, reduceCtorEq, Event.asked.injEq, false_or, List.not_mem_nil,
      or_false, Except.ok.injEq, Response.text.injEq] at hmem
    rw [hmem.2]
    decide
  · refine ⟨n, [("x", "api"), ("y", "web")], hn, ?_, ?_⟩
    · have hinsert : Bindings.insert ("x", "api") [("y", "web")] =
          [("x", "api"), ("y", "web")] := by decide
      have hasked : .asked (parameterQuestion "x" (templateName ⟨"/t/a"⟩)) (.ok (.text "api")) ∈
          r.events := by
        rw [hevents]
        decide +kernel
      rw [ht, ← hinsert]
      exact .typed (by decide) hasked (.done _)
    · rw [ht]
      exact ⟨_, List.mem_singleton_self _, own, rfl, by decide, by decide +kernel⟩

end PipelineScript
