import PipelineScript.Proofs.Generate.Conversation
import PipelineScript.Proofs.Prompter.Scripted
import PipelineScript.Proofs.Prompter.Terminal

/-!
# Replaying a terminal

What a terminal answers while a request is answered can be given in advance: the list of its answers
leads to the same end by way of the same questions. A terminal asks again where a line is no answer
and comes to the end of its input at some question; neither is seen by the request.
-/

namespace PipelineScript

variable {α : Type}

/-- The answers among exchanges, in order. -/
def answers (l : List Exchange) : List Response :=
  l.filterMap fun x => x.2.toOption

theorem answers_cons_error (q : Question) (e : PromptError) (l : List Exchange) :
    answers ((q, .error e) :: l) = answers l := rfl

/-- The answer is one that the question admits, or the input ended before there was one. -/
def Exchange.IsFair (x : Exchange) : Prop :=
  (∃ r, x.2 = .ok r ∧ x.1.Admits r) ∨ x.2 = .error .closed

namespace Terminal

open Dialogue

/-- Behind the end of the input no question gets an answer. -/
theorem exchanges_of_end (d : Dialogue α) {t : Terminal} (h : t.input = []) :
    ∀ x ∈ exchanges (d.run t).events, x.2 = .error .closed := by
  induction d generalizing t with
  | done a => exact fun x hx => absurd hx List.not_mem_nil
  | fail e => exact fun x hx => absurd hx List.not_mem_nil
  | act a next ih => cases a <;> exact ih () h
  | ask q next ih =>
    obtain ⟨t', hinput, hask⟩ := exists_ask_eq q t
    obtain ⟨hclosed, hend⟩ := readAnswer_of_end q (hinput.trans h)
    simp only [run, hask, exchanges_asked, List.forall_mem_cons]
    exact ⟨hclosed, ih _ hend⟩

/-- A dialogue with a terminal whose input is a text is answered from the list of its answers. -/
theorem exchanges_of_isText (d : Dialogue α) {t : Terminal} (h : t.IsText) :
    let l := exchanges (d.run t).events
    AnsweredFrom (answers l) l ∧ ∀ x ∈ l, x.IsFair := by
  induction d generalizing t with
  | done a => exact ⟨.nil _, fun x hx => absurd hx List.not_mem_nil⟩
  | fail e => exact ⟨.nil _, fun x hx => absurd hx List.not_mem_nil⟩
  | act a next ih => cases a <;> exact ih () h
  | ask q next ih =>
    obtain ⟨t', hinput, hask⟩ := exists_ask_eq q t
    have htext : t'.IsText := by rwa [IsText, hinput]
    simp only [run, hask, exchanges_asked, List.forall_mem_cons]
    obtain ⟨r, hr, hadmits, hrest⟩ | ⟨hclosed, hend⟩ := readAnswer_of_isText (q := q) htext
    · obtain ⟨hanswered, hfair⟩ := ih (readAnswer q t').1 hrest
      rw [hr] at hanswered hfair ⊢
      exact ⟨hanswered.cons_ok q r, .inl ⟨r, rfl, hadmits⟩, hfair⟩
    · -- Nothing is answered from here on, so the list of the answers has come to its end as well.
      obtain ⟨hanswered, hfair⟩ := ih (readAnswer q t').1 (t := (readAnswer q t').2) ⟨[], hend⟩
      have hnone : answers (exchanges ((next (readAnswer q t').1).run (readAnswer q t').2).events)
          = [] :=
        List.filterMap_eq_nil_iff.2 fun x hx => by rw [exchanges_of_end _ hend x hx]; rfl
      rw [hclosed] at hanswered hfair hnone ⊢
      rw [hnone] at hanswered
      rw [answers_cons_error, hnone]
      exact ⟨hanswered.cons_closed q, .inr rfl, hfair⟩

end Terminal

/-- A terminal whose input is a text is replayed by the list of its answers. With that list a
request ends in the same way, with the same files and the same events behind it; the same questions
are asked, and all answers of the list are given. Each answer is an offered choice, the default, or
a text where one is accepted; a question without an answer has come to the end of the input. -/
theorem generate_replay [Quoting] (r : Request) (c : Config) (fs : FileSystem)
    (text output : String) (colours : Bool) :
    let terminal : Terminal := ⟨text.toUTF8.data.toList, output, colours⟩
    let g := generate r c fs terminal
    let recorded := generate r c fs (Recorder.start terminal)
    let record := recorded.prompter.record
    let replayed := generate r c fs (Scripted.ofResponses (answers record))
    recorded.mapPrompter Recorder.inner = g ∧
      replayed.result = g.result ∧ replayed.fileSystem = g.fileSystem ∧
      replayed.events = g.events ∧
      replayed.prompter.asked = record.map Prod.fst ∧ replayed.prompter.responses = [] ∧
      ∀ x ∈ record, x.IsFair := by
  intro terminal g recorded record replayed
  have hrecorded : recorded.mapPrompter Recorder.inner = g :=
    (generate_inner r c fs (Recorder.start terminal)).symm
  -- One dialogue stands for the request with both prompters.
  let n := max terminal.input.length (answers record).length + 1
  let d := conversation n r c fs
  have hd : d.Gives (Recorder.start terminal) (recorded.mapPrompter fun _ => ())
      recorded.prompter :=
    gives_conversation r c fs (Nat.lt_succ_of_le (Nat.le_max_left _ _))
  have hd' : d.Gives (Scripted.ofResponses (answers record)) (replayed.mapPrompter fun _ => ())
      replayed.prompter :=
    gives_conversation r c fs (Nat.lt_succ_of_le (Nat.le_max_right _ _))
  have hrun : d.run terminal = (d.run (Recorder.start terminal)).mapPrompter Recorder.inner :=
    Dialogue.run_inner d (Recorder.start terminal)
  have hrecord : record = Dialogue.exchanges (d.run terminal).events := by
    rw [hrun]
    exact (congrArg Recorder.record hd.2).symm.trans (Dialogue.record_run d _)
  obtain ⟨hanswered, hfair⟩ :=
    Terminal.exchanges_of_isText d (Terminal.isText_mk text output colours)
  rw [← hrecord] at hanswered hfair
  have hlist : AnsweredFrom (answers record) (Dialogue.exchanges (d.run terminal).events) :=
    hrecord ▸ hanswered
  obtain ⟨houtcome, hevents⟩ := (Dialogue.Traces.of_run d terminal).run_eq hlist
  -- The list is answered in the same way, so it comes to the same end.
  have hsame : replayed.mapPrompter (fun _ => ()) = g.mapPrompter fun _ => () := by
    rw [← hrecorded]
    rw [hrun] at houtcome
    exact Except.ok.inj (hd'.1.symm.trans (houtcome.trans hd.1))
  obtain ⟨-, hasked, hresponses⟩ := Dialogue.run_scripted d (Scripted.ofResponses (answers record))
  rw [hd'.2, hevents, ← hrecord] at hasked hresponses
  refine ⟨hrecorded, congrArg Generated.result hsame, congrArg Generated.fileSystem hsame,
    congrArg Generated.events hsame, hasked, ?_, hfair⟩
  rw [hresponses]
  exact List.drop_eq_nil_of_le (List.length_filterMap_le _ _)

end PipelineScript
