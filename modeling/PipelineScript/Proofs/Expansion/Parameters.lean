import PipelineScript.Proofs.Expansion.Nesting
import PipelineScript.Proofs.Expansion.Questions
import PipelineScript.Proofs.Prompter.Recorder

/-!
# The parameters of a template

A template declares parameters, and the reference to it supplies values. What is declared and not
supplied is asked for once each, in the order of the declarations, before any step of the template
is come to. The first question that is not answered with a text ends the expansion there.
-/

namespace PipelineScript

namespace Bindings

/-- The names that have no value, each once and in the order in which they come. -/
def missing (b : Bindings) (names : List String) : List String :=
  (names.filter fun name => (b.lookup name).isNone).eraseDups

variable {b : Bindings} {name : String}

theorem missing_cons_of_isSome (h : (b.lookup name).isSome) (names : List String) :
    b.missing (name :: names) = b.missing names := by
  rw [missing, missing, List.filter_cons_of_neg (by simpa [Option.isSome_iff_ne_none] using h)]

/-- A name that gets a value is missing no more. -/
theorem missing_cons_of_none (h : b.lookup name = none) (value : String) (names : List String) :
    b.missing (name :: names) = name :: (b.insert (name, value)).missing names := by
  have hfilter (x : String) : (!x == name && (b.lookup x).isNone) =
      ((b.insert (name, value)).lookup x).isNone := by
    rw [← Option.not_isSome, ← Option.not_isSome, isSome_lookup_insert, Bool.not_or]
  rw [missing, List.filter_cons_of_pos (by rw [h]; rfl), List.eraseDups_cons, List.filter_filter,
    missing]
  simp only [hfilter]

end Bindings

namespace Expansion

open Dialogue

variable {template name : String} {declared : List String} {b b' : Bindings}

/-- The bindings have the names that were supplied and those that are declared. What was supplied
is unchanged, and the rest is what was typed. -/
structure Supplements (declared : List String) (b : Bindings) (typed : List (String × String))
    (b' : Bindings) : Prop where
  names (name : String) : (b'.lookup name).isSome ↔ (b.lookup name).isSome ∨ name ∈ declared
  supplied (name value : String) (h : b.lookup name = some value) : b'.lookup name = some value
  typed : ∀ entry ∈ typed, b'.lookup entry.1 = some entry.2

/-- The questions for values with the texts that were typed. -/
def typedValues (template : String) (typed : List (String × String)) : List Exchange :=
  typed.map fun entry => (parameterQuestion entry.1 template, .ok (.text entry.2))

/-- What is asked for the parameters of a template, and what comes of it. -/
inductive Binds (template : String) (declared : List String) (b : Bindings) :
    List Exchange → Except GenerationError Bindings → Prop
  /-- There is a text for each parameter that was not supplied. -/
  | bound (typed : List (String × String)) {b' : Bindings}
      (hasked : typed.map Prod.fst = b.missing declared) (h : Supplements declared b typed b') :
      Binds template declared b (typedValues template typed) (.ok b')
  /-- One parameter gets no text, and no more is asked. -/
  | stopped (typed : List (String × String)) {name : String} {unasked : List String}
      {answer : Except PromptError Response}
      (hasked : typed.map Prod.fst ++ name :: unasked = b.missing declared)
      (hanswer : ∀ value, answer ≠ .ok (.text value)) :
      Binds template declared b
        (typedValues template typed ++ [(parameterQuestion name template, answer)])
        (.error (withoutValue name template answer))

theorem Supplements.of_supplied {typed : List (String × String)} (hname : (b.lookup name).isSome)
    (h : Supplements declared b typed b') : Supplements (name :: declared) b typed b' where
  names x := by
    rw [h.names, List.mem_cons, or_left_comm]
    refine (or_iff_right_of_imp ?_).symm
    rintro rfl
    exact .inl hname
  supplied := h.supplied
  typed := h.typed

theorem Supplements.of_typed {typed : List (String × String)} {value : String}
    (hname : b.lookup name = none) (h : Supplements declared (b.insert (name, value)) typed b') :
    Supplements (name :: declared) b ((name, value) :: typed) b' where
  names x := by
    rw [h.names, Bindings.isSome_lookup_insert, Bool.or_eq_true, beq_iff_eq, List.mem_cons,
      or_assoc, or_left_comm]
  supplied x value' hx := by
    refine h.supplied x value' ?_
    rw [Bindings.lookup_insert_of_none hname, hx, Option.some_or]
  typed := by
    refine List.forall_mem_cons.2 ⟨h.supplied name value ?_, h.typed⟩
    rw [Bindings.lookup_insert_of_none hname, hname, Option.none_or, List.lookup_cons_self]

namespace Binds

variable {asked : List Exchange} {result : Except GenerationError Bindings}

theorem nil (template : String) (b : Bindings) : Binds template [] b [] (.ok b) :=
  .bound [] rfl
    { names := fun _ => (or_iff_left List.not_mem_nil).symm
      supplied := fun _ _ h => h
      typed := fun _ h => absurd h List.not_mem_nil }

/-- A parameter that was supplied makes no difference. -/
theorem of_supplied (hname : (b.lookup name).isSome) (h : Binds template declared b asked result) :
    Binds template (name :: declared) b asked result := by
  have hmissing := Bindings.missing_cons_of_isSome hname declared
  cases h with
  | bound typed hasked h => exact .bound typed (hasked.trans hmissing.symm) (h.of_supplied hname)
  | stopped typed hasked hanswer => exact .stopped typed (hasked.trans hmissing.symm) hanswer

/-- A parameter for which a text is typed counts as supplied from then on. -/
theorem of_typed {value : String} (hname : b.lookup name = none)
    (h : Binds template declared (b.insert (name, value)) asked result) :
    Binds template (name :: declared) b
      ((parameterQuestion name template, .ok (.text value)) :: asked) result := by
  have hmissing := Bindings.missing_cons_of_none hname value declared
  cases h with
  | bound typed hasked h =>
    exact .bound ((name, value) :: typed) (hmissing ▸ congrArg (name :: ·) hasked)
      (h.of_typed hname)
  | stopped typed hasked hanswer =>
    exact .stopped ((name, value) :: typed) (hmissing ▸ congrArg (name :: ·) hasked) hanswer

/-- The first parameter that gets no text is the last that is asked for. -/
theorem of_no_text {answer : Except PromptError Response} (hname : b.lookup name = none)
    (hanswer : ∀ value, answer ≠ .ok (.text value)) :
    Binds template (name :: declared) b [(parameterQuestion name template, answer)]
      (.error (withoutValue name template answer)) :=
  .stopped [] (Bindings.missing_cons_of_none hname "" declared).symm hanswer

end Binds

variable {σ : Type} [Prompting σ]

/-- Parameters are asked for one by one until all of them have values or one gets none. -/
theorem run_bindParameters (template : String) (declared : List String) (b : Bindings)
    (prompter : σ) : ∃ asked result prompter', Prompting.Answers prompter asked prompter' ∧
      Binds template declared b asked result ∧ (bindParameters template declared b).run prompter =
        ⟨result, asked.map fun x => .asked x.1 x.2, prompter'⟩ := by
  induction declared generalizing b prompter with
  | nil => exact ⟨[], .ok b, prompter, .nil prompter, .nil template b, rfl⟩
  | cons name declared ih =>
    cases hname : b.lookup name with
    | some value =>
      obtain ⟨asked, result, prompter', hanswers, hbinds, hrun⟩ := ih b prompter
      have hsome : (b.lookup name).isSome := by rw [hname]; rfl
      refine ⟨asked, result, prompter', hanswers, hbinds.of_supplied hsome, ?_⟩
      rw [bindParameters, if_pos hsome, hrun]
    | none =>
      obtain ⟨next, hnext, htext, hnone⟩ := exists_requestParameter_eq name template
      rw [bindParameters, if_neg (by simp [hname]), hnext, bind_eq_bind, Dialogue.bind, run]
      obtain ⟨answer, prompter₁, hask⟩ :
          ∃ answer s, Prompting.ask (parameterQuestion name template) prompter = (answer, s) :=
        ⟨_, _, rfl⟩
      rw [hask]
      by_cases hanswer : ∃ value, answer = .ok (.text value)
      · obtain ⟨value, rfl⟩ := hanswer
        obtain ⟨asked, result, prompter', hanswers, hbinds, hrun⟩ :=
          ih (b.insert (name, value)) prompter₁
        refine ⟨_, result, prompter', .cons hask hanswers, hbinds.of_typed hname, ?_⟩
        rw [htext, bind_done, hrun, List.map_cons]
      · have hanswer (value : String) : answer ≠ .ok (.text value) := fun h => hanswer ⟨value, h⟩
        refine ⟨_, _, prompter₁, .cons hask (.nil prompter₁), .of_no_text hname hanswer, ?_⟩
        rw [hnone answer hanswer]
        rfl

end Expansion

open Expansion Expander

variable {σ : Type} [Prompting σ]

/-- The parameters of a template get their values before any of its steps is come to. For each that
is declared and not supplied there is one question, in the order of the declarations, until one is
not answered with a text. Behind the last text the steps are expanded with what was supplied and
what was typed. Without one nothing comes behind the question: no command is offered, and no other
template is loaded. The failure names the parameter and the file if a choice was answered or there
was nobody to ask. -/
theorem run_template_binds {s : Settings} {fs : FileSystem} {path : Path} {n : Node} {depth : Nat}
    (hn : fs.library path = .ok n) (hdepth : depth ≤ s.maxTemplateDepth) (b : Bindings)
    (session : Session) (prompter : σ) :
    let t := Template.ofNode n
    let r := (resolveTemplate s fs.library path b depth session).run prompter
    (∃ asked result prompter', Prompting.Answers prompter asked prompter' ∧
      Binds (templateName path) t.parameters b asked result ∧
      let before := .acted (.load path depth) :: asked.map fun x => .asked x.1 x.2
      (∀ b', result = .ok b' →
        let later := (processSteps s fs.library t.steps ⟨path.directory, b', depth⟩ session).run
          prompter'
        r = ⟨later.outcome, before ++ later.events, later.prompter⟩) ∧
      ∀ e, result = .error e → r = ⟨.error e, before, prompter'⟩) ∧
    (fs.IsTree → path.fileName? = some (templateName path)) := by
  intro t r
  obtain ⟨asked, result, prompter', hanswers, hbinds, hrun⟩ :=
    run_bindParameters (templateName path) t.parameters b prompter
  have hr := congrArg (Dialogue.run · prompter)
    (resolveTemplate_of_le s fs.library hdepth path b session)
  rw [hn] at hr
  simp only [Dialogue.ofExcept, Dialogue.bind_done, Dialogue.run, Dialogue.run_bind,
    Dialogue.afterAct] at hr
  rw [hrun] at hr
  refine ⟨⟨asked, result, prompter', hanswers, hbinds, fun b' hresult => ?_, fun e hresult => ?_⟩,
    fun htree => ?_⟩
  · subst hresult
    exact hr
  · subst hresult
    exact hr
  · obtain ⟨name, hname⟩ := FileSystem.exists_fileName_of_library htree hn
    rw [templateName, hname, Option.getD_some]

/-- A template that declares one of its parameters twice. -/
def declaringFiles : FileSystem :=
  .ofFiles [(["t"], "parameters:\n- a\n- b\n- a\n- c\nsteps:\n- script: make\n")]

/-- The parameter `b` is supplied and `a` is typed. There is no value of `c`, so that nothing is
made. -/
theorem run_template_binds_declaring :
    let r := (resolveTemplate {} declaringFiles.library ⟨"/t"⟩ [("b", "2")] 1 .undecided).run
      (Scripted.ofResponses [.text "1", .choice .quit])
    (∃ asked, Binds "t" ["a", "b", "a", "c"] [("b", "2")] asked
        (.error (.missingParameter "c" "t")) ∧
      r.events = .acted (.load ⟨"/t"⟩ 1) :: asked.map fun x => .asked x.1 x.2) ∧
      Path.fileName? ⟨"/t"⟩ = some "t" := by
  intro r
  obtain ⟨n, hn, ht⟩ := FileSystem.exists_node
    (show (declaringFiles.library ⟨"/t"⟩).map Template.ofNode =
      .ok ⟨["a", "b", "a", "c"], [⟨none, some ⟨none, none, "make"⟩⟩]⟩ by decide +kernel)
  have htree : declaringFiles.IsTree := FileSystem.isTree_ofFiles fun f hf f' hf' _ => by
    rw [List.mem_singleton.1 hf, List.mem_singleton.1 hf']
  obtain ⟨⟨asked, result, prompter', -, hbinds, hok, herror⟩, hname⟩ :=
    run_template_binds hn (show 1 ≤ Settings.maxTemplateDepth {} by decide) [("b", "2")] .undecided
      (Scripted.ofResponses [.text "1", .choice .quit])
  rw [ht] at hbinds hok
  have houtcome : r.outcome = .error (.missingParameter "c" "t") := by decide +kernel
  cases result with
  | ok b =>
    -- The steps of the template come to their end with every value.
    have hends := houtcome.symm.trans (congrArg Dialogue.Run.outcome (hok b rfl))
    cases hends
  | error e =>
    obtain rfl : e = .missingParameter "c" "t" :=
      Except.error.inj ((congrArg Dialogue.Run.outcome (herror e rfl)).symm.trans houtcome)
    refine ⟨⟨asked, ?_, congrArg Dialogue.Run.events (herror _ rfl)⟩, ?_⟩
    · exact hbinds
    · exact (hname htree).trans (by decide +kernel)

end PipelineScript
