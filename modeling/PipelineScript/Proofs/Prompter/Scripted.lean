import PipelineScript.Proofs.Dialogue.Trace

/-!
# Answers given in advance

A prompter with a list of answers gives them in their order, whatever it is asked. A dialogue that
was answered in this way by some other prompter is thus repeated by the list of its answers.
-/

namespace PipelineScript

namespace Scripted

/-- The answer from a list to the question behind `i` others. -/
def reply (rs : List Response) (i : Nat) : Except PromptError Response :=
  match rs[i]? with
  | some r => .ok r
  | none => .error .closed

theorem ask_eq (q : Question) (s : Scripted) :
    Prompting.ask q s = (reply s.responses 0, ⟨s.responses.drop 1, s.asked ++ [q], s.notices⟩) := by
  obtain ⟨_ | ⟨r, rs⟩, asked, notices⟩ := s
  · rfl
  · rfl

theorem reply_drop_one (rs : List Response) (i : Nat) : reply (rs.drop 1) i = reply rs (i + 1) := by
  rw [reply, reply, List.getElem?_drop, Nat.add_comm]

end Scripted

/-- The questions are answered from the list in their order, and behind its end not at all. -/
def AnsweredFrom (rs : List Response) (l : List Exchange) : Prop :=
  ∀ before q r, before ++ [(q, r)] <+: l → r = Scripted.reply rs before.length

namespace AnsweredFrom

variable {rs : List Response} {l l' : List Exchange}

theorem nil (rs : List Response) : AnsweredFrom rs [] := by
  intro before q r h
  have := h.length_le
  simp at this

theorem cons (rs : List Response) (q : Question) (h : AnsweredFrom (rs.drop 1) l) :
    AnsweredFrom rs ((q, Scripted.reply rs 0) :: l) := by
  intro before q' r hbegins
  cases before with
  | nil =>
    rw [List.nil_append, List.cons_prefix_cons] at hbegins
    exact (Prod.mk.inj hbegins.1).2
  | cons x before =>
    rw [List.cons_append, List.cons_prefix_cons] at hbegins
    rw [h before q' r hbegins.2, Scripted.reply_drop_one, List.length_cons]

theorem cons_ok (q : Question) (r : Response) (h : AnsweredFrom rs l) :
    AnsweredFrom (r :: rs) ((q, .ok r) :: l) :=
  cons (r :: rs) q h

theorem cons_closed (q : Question) (h : AnsweredFrom [] l) :
    AnsweredFrom [] ((q, .error .closed) :: l) :=
  cons [] q h

/-- What is answered from one list is answered alike. -/
theorem answeredAlike (h : AnsweredFrom rs l) (h' : AnsweredFrom rs l') : AnsweredAlike l l' :=
  fun before q r r' hbegins hbegins' =>
    (h before q r hbegins).trans (h' before q r' hbegins').symm

end AnsweredFrom

namespace Dialogue

variable {α : Type}

/-- A run with a list of answers is answered from it. -/
theorem run_scripted (d : Dialogue α) (s : Scripted) :
    let r := d.run s
    AnsweredFrom s.responses (exchanges r.events) ∧
      r.prompter.asked = s.asked ++ (exchanges r.events).map Prod.fst ∧
      r.prompter.responses = s.responses.drop (exchanges r.events).length := by
  induction d generalizing s with
  | done a => exact ⟨.nil _, (List.append_nil _).symm, rfl⟩
  | fail e => exact ⟨.nil _, (List.append_nil _).symm, rfl⟩
  | act a next ih =>
    obtain ⟨hanswered, hasked, hresponses⟩ := ih () (afterAct s a)
    cases a <;> exact ⟨hanswered, hasked, hresponses⟩
  | ask q next ih =>
    simp only [run, Scripted.ask_eq, exchanges_asked]
    obtain ⟨hanswered, hasked, hresponses⟩ := ih (Scripted.reply s.responses 0)
      ⟨s.responses.drop 1, s.asked ++ [q], s.notices⟩
    refine ⟨.cons _ q hanswered, ?_, ?_⟩
    · rw [hasked, List.map_cons, List.append_assoc, List.singleton_append]
    · rw [hresponses, List.drop_drop, List.length_cons, Nat.add_comm]

/-- A trace that is answered from a list is what happens with that list. -/
theorem Traces.run_eq {d : Dialogue α} {events : List Event} {r : Except GenerationError α}
    {rs : List Response} (h : Traces d events r) (hanswered : AnsweredFrom rs (exchanges events)) :
    (d.run (Scripted.ofResponses rs)).outcome = r ∧
      (d.run (Scripted.ofResponses rs)).events = events := by
  obtain ⟨hevents, houtcome⟩ := (Traces.of_run d (Scripted.ofResponses rs)).eq_of_answeredAlike h
    ((run_scripted d (Scripted.ofResponses rs)).1.answeredAlike hanswered)
  exact ⟨houtcome, hevents⟩

end Dialogue

end PipelineScript
