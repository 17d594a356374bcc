import Mathlib.Tactic.Common
import PipelineScript.Proofs.Expansion.Questions
import PipelineScript.Proofs.Expansion.Unasked
import PipelineScript.Proofs.Script.Decoding
import PipelineScript.Proofs.Selection.Offer

/-!
# Quitting

There are two kinds of questions in an expansion, and the same choice ends the run at both. Behind
a question about a command it ends without a script, with a notice and nothing else; behind a
question for the value of a parameter it fails, since the template cannot be expanded. However deep
the question is asked, nothing is done behind it.
-/

namespace PipelineScript

open Dialogue

/-- A question for the value of a parameter shows the parameter and the template. -/
theorem Expansion.parameterQuestion_inj {parameter parameter' template template' : String}
    (h : parameterQuestion parameter template = parameterQuestion parameter' template') :
    parameter = parameter' ∧ template = template' := by
  obtain rfl : parameter = parameter' := Option.some.inj (congrArg Question.textHint h)
  have hcontext := Option.some.inj (congrArg Question.context h)
  exact ⟨rfl, by simpa [toString] using hcontext⟩

namespace Selection

/-- A question about a command is none for the value of a parameter. -/
theorem question_ne_parameterQuestion (c : Command) (parameter template : String) :
    question c ≠ Expansion.parameterQuestion parameter template := by
  intro h
  have hchoices : Choice.all = [.quit] := congrArg Question.choices h
  exact absurd hchoices (by decide)

/-- The answer with which a run is quit. -/
abbrev quitting : Except PromptError Response := .ok (.choice .quit)

/-- What happens in a run, and how it ends, when a run ends with the first answer that quits it: if
the question is about a command, with a notice and no script, and if it is for the value of a
parameter, with a failure. A run that is not quit ends in another way. -/
inductive Stopping : List Event → Except GenerationError Flow → Prop
  | continued (s : Session) : Stopping [] (.ok (.continued s))
  | failed (e : GenerationError) : Stopping [] (.error e)
  | acted (a : Act) {events : List Event} {r : Except GenerationError Flow}
      (h : Stopping events r) : Stopping (.acted a :: events) r
  | asked (q : Question) {answer : Except PromptError Response} {events : List Event}
      {r : Except GenerationError Flow} (hanswer : answer ≠ quitting) (h : Stopping events r) :
      Stopping (.asked q answer :: events) r
  | quit (c : Command) :
      Stopping [.asked (question c) quitting, .acted terminating] (.ok .terminated)
  | declined (parameter template : String) :
      Stopping [.asked (Expansion.parameterQuestion parameter template) quitting]
        (.error (.missingParameter parameter template))

namespace Stopping

variable {events : List Event} {r : Except GenerationError Flow}

theorem unanswered (q : Question) (e : PromptError) :
    Stopping [.asked q (.error e)] (.error (.unanswered e)) :=
  .asked q (by simp) (.failed _)

theorem answered (q : Question) {a : Response} (ha : a ≠ .choice .quit) (h : Stopping events r) :
    Stopping (.asked q (.ok a) :: events) r :=
  .asked q (fun heq => ha (Except.ok.inj heq)) h

/-- Behind an answer that quits the run there is at most the notice that it ends. -/
theorem cases_of_quitting (h : Stopping events r) {q : Question} {earlier later : List Event}
    (hquit : events = earlier ++ .asked q quitting :: later) :
    (∃ c, q = question c ∧ later = [.acted terminating] ∧ r = .ok .terminated) ∨
      ∃ parameter template, q = Expansion.parameterQuestion parameter template ∧ later = [] ∧
        r = .error (.missingParameter parameter template) := by
  induction h generalizing earlier with
  | continued s => simp at hquit
  | failed e => simp at hquit
  | acted a h ih =>
    cases earlier with
    | nil => cases hquit
    | cons e earlier => exact ih (List.cons.inj hquit).2
  | asked q' hanswer h ih =>
    cases earlier with
    | nil =>
      cases hquit
      exact absurd rfl hanswer
    | cons e earlier => exact ih (List.cons.inj hquit).2
  | quit c =>
    cases earlier with
    | nil =>
      cases hquit
      exact .inl ⟨c, rfl, rfl, rfl⟩
    | cons e earlier =>
      have hnotice := (List.cons.inj hquit).2
      cases earlier <;> simp at hnotice
  | declined parameter template =>
    cases earlier with
    | nil =>
      cases hquit
      exact .inr ⟨parameter, template, rfl, rfl, rfl⟩
    | cons e earlier =>
      have hnothing := (List.cons.inj hquit).2
      simp at hnothing

/-- A run ends without a script only if it is quit at a command. -/
theorem exists_quitting (h : Stopping events r) (hr : r = .ok .terminated) :
    ∃ c, .asked (question c) quitting ∈ events := by
  induction h with
  | continued s => cases hr
  | failed e => cases hr
  | acted a h ih =>
    obtain ⟨c, hc⟩ := ih hr
    exact ⟨c, List.mem_cons_of_mem _ hc⟩
  | asked q hanswer h ih =>
    obtain ⟨c, hc⟩ := ih hr
    exact ⟨c, List.mem_cons_of_mem _ hc⟩
  | quit c => exact ⟨c, List.mem_cons_self⟩
  | declined parameter template => cases hr

end Stopping

variable {α σ : Type} [Prompting σ]

/-- A run of a selection ends with the first answer that quits it. -/
theorem stopping_select {d : Dialogue α} (h : Expansion.AsksForValues d) (interactive : Bool)
    (s : Session) (prompter : σ) :
    let r := (select interactive s d).run prompter
    Stopping r.events r.outcome := by
  induction h generalizing s prompter with
  | done a => exact .continued s
  | fail e => exact .failed e
  | @ask parameter template next hvalue hnone ih =>
    rw [select, run]
    obtain ⟨answer, prompter'⟩ :=
      Prompting.ask (Expansion.parameterQuestion parameter template) prompter
    by_cases htext : ∃ value, answer = .ok (.text value)
    · obtain ⟨value, rfl⟩ := htext
      exact .answered _ (by simp) (ih value s prompter')
    · simp only [hnone answer fun value hvalue => htext ⟨value, hvalue⟩]
      by_cases hquit : answer = quitting
      · subst hquit
        exact .declined parameter template
      · exact .asked _ hquit (.failed _)
  | act a h ih =>
    cases a with
    | load path depth => exact .acted _ (ih s _)
    | job name => exact .acted _ (ih s _)
    | notice message colour =>
      rw [select_notice]
      split_ifs
      · exact ih s _
      · exact .acted _ (ih s _)
    | emit c =>
      rw [select_emit]
      split_ifs
      · exact ih s _
      · rw [run]
        obtain ⟨answer, prompter'⟩ := Prompting.ask (question c) prompter
        rcases answer with e | (choice | text)
        · exact .unanswered _ e
        · cases choice with
          | yes => exact .answered _ (by decide) (.acted _ (ih _ _))
          | no => exact .answered _ (by decide) (ih _ _)
          | acceptRemaining => exact .answered _ (by decide) (.acted _ (.acted _ (ih _ _)))
          | skipRemaining => exact .answered _ (by decide) (.acted _ (ih _ _))
          | quit => exact .quit c
        · exact .answered _ (by simp) (.acted _ (ih _ _))
      · exact .acted _ (ih s _)

end Selection

variable {σ : Type} [Prompting σ]

/-- An expansion ends without a script if and only if a question about a command is answered with
the choice to quit. Then this is the last question, nothing happens behind it but the notice that
the run ends, and the builder is what it was when the question was asked. A question for the value
of a parameter that is answered so is the last thing that happens, and the expansion fails because
that parameter has no value. -/
theorem expandPipeline_terminated (s : Settings) (fs : FileSystem) (p : Pipeline) (base : Path)
    (prompter : σ) :
    let r := (expandPipeline s fs.library p base).run prompter
    (r.outcome = .ok .terminated ↔
        ∃ c, .asked (Selection.question c) (.ok (.choice .quit)) ∈ r.events) ∧
      (∀ c earlier later,
        r.events = earlier ++ .asked (Selection.question c) (.ok (.choice .quit)) :: later →
          later = [.acted Selection.terminating] ∧
            ∀ b, r.builder b r.events.length = r.builder b earlier.length) ∧
      ∀ parameter template earlier later,
        r.events = earlier ++
            .asked (Expansion.parameterQuestion parameter template) (.ok (.choice .quit)) :: later →
          later = [] ∧ r.outcome = .error (.missingParameter parameter template) := by
  intro r
  have hstopping : Selection.Stopping r.events r.outcome := by
    simp only [r, expandPipeline_eq_select]
    exact Selection.stopping_select (Expansion.asksForValues_pipeline s fs.library p base)
      s.interactive .undecided prompter
  have hcommand {c : Command} {earlier later : List Event}
      (h : r.events = earlier ++ .asked (Selection.question c) (.ok (.choice .quit)) :: later) :
      later = [.acted Selection.terminating] ∧ r.outcome = .ok .terminated := by
    obtain ⟨-, -, hlater, houtcome⟩ | ⟨parameter, template, hq, -⟩ := hstopping.cases_of_quitting h
    · exact ⟨hlater, houtcome⟩
    · exact absurd hq (Selection.question_ne_parameterQuestion c parameter template)
  refine ⟨⟨hstopping.exists_quitting, fun ⟨c, hc⟩ => ?_⟩, fun c earlier later h => ?_,
    fun parameter template earlier later h => ?_⟩
  · obtain ⟨earlier, later, h⟩ := List.append_of_mem hc
    exact (hcommand h).2
  · obtain ⟨rfl, -⟩ := hcommand h
    refine ⟨rfl, fun b => ?_⟩
    have hbuilt : (r.events.take r.events.length).filterMap Event.entry? =
        (r.events.take earlier.length).filterMap Event.entry? := by
      rw [List.take_length, h, List.take_left, List.filterMap_append]
      simp [Event.entry?, Selection.terminating]
    rw [Run.builder, Run.builder, hbuilt]
  · obtain ⟨c, hq, -⟩ | ⟨parameter', template', hq, hlater, houtcome⟩ :=
      hstopping.cases_of_quitting h
    · exact absurd hq.symm (Selection.question_ne_parameterQuestion c parameter template)
    · obtain ⟨rfl, rfl⟩ := Expansion.parameterQuestion_inj hq
      exact ⟨hlater, houtcome⟩

/-- If the first of two commands is confirmed and the run is quit at the second, the question about
the second is the last one, and only the first command is in the builder. -/
theorem expandPipeline_terminated_forwarding :
    let r := (expandPipeline { interactive := true } forwardingFiles.library forwardingPipeline
      ⟨"/"⟩).run (Scripted.ofChoices [.yes, .quit])
    r.outcome = .ok .terminated ∧ r.entries.filterMap Script.Entry.command? =
        [⟨unnamedCommand, "lint web"⟩] ∧
      ∃ c earlier, r.events = earlier ++
        [.asked (Selection.question c) (.ok (.choice .quit)), .acted Selection.terminating] := by
  intro r
  have houtcome : r.outcome = .ok .terminated := by decide +kernel
  obtain ⟨hiff, hlast, -⟩ := expandPipeline_terminated { interactive := true } forwardingFiles
    forwardingPipeline ⟨"/"⟩ (Scripted.ofChoices [.yes, .quit])
  refine ⟨houtcome, by decide +kernel, ?_⟩
  obtain ⟨c, hc⟩ := hiff.1 houtcome
  obtain ⟨earlier, later, hevents⟩ := List.append_of_mem hc
  obtain ⟨rfl, -⟩ := hlast c earlier later hevents
  exact ⟨c, earlier, hevents⟩

end PipelineScript
