import PipelineScript.Proofs.Dialogue.Performance
import PipelineScript.Proofs.Selection.Decided

/-!
# Selection as a walk over the commands

With choices given in advance, an interactive selection is a walk over the commands that a run
without questions keeps. The walk consumes a choice at each command until the rest is decided, and
it knows neither templates nor jobs: however deep a command stands, it is one of the list.
-/

namespace PipelineScript

/-- The name of the job that an entry begins. -/
def Script.Entry.job? : Script.Entry → Option String
  | job name => some name
  | _ => none

/-- The names of the jobs of a script, in order. -/
def Script.jobs (s : Script) : List String :=
  s.entries.filterMap Script.Entry.job?

namespace Selection

/-- How a walk over commands ends. -/
inductive Ending where
  /-- Every command was kept or dropped. -/
  | finished
  | quit
  /-- There was no choice left for a command. -/
  | closed
  deriving DecidableEq, Repr

/-- A walk over commands: those that were kept, those that were asked about, the choices that are
left, and how it ended. -/
structure Walk where
  kept : List Command
  asked : List Command
  rest : List Choice
  ending : Ending
  deriving DecidableEq, Repr

/-- The walk over commands with choices given in advance. -/
def walk : List Command → List Choice → Walk
  | [], cs => ⟨[], [], cs, .finished⟩
  | c :: _, [] => ⟨[], [c], [], .closed⟩
  | c :: commands, .yes :: cs =>
    let w := walk commands cs
    { w with kept := c :: w.kept, asked := c :: w.asked }
  | c :: commands, .no :: cs =>
    let w := walk commands cs
    { w with asked := c :: w.asked }
  | c :: commands, .acceptRemaining :: cs => ⟨c :: commands, [c], cs, .finished⟩
  | c :: _, .skipRemaining :: cs => ⟨[], [c], cs, .finished⟩
  | c :: _, .quit :: cs => ⟨[], [c], cs, .quit⟩

/-- The run of a selection goes the way of a walk over the commands of `entries`, behind questions
that were asked before. -/
structure Follows (r : Dialogue.Run Flow Scripted) (w : Walk) (before : List Question)
    (entries : List Script.Entry) : Prop where
  asked : r.prompter.asked = before ++ w.asked.map question
  responses : r.prompter.responses = w.rest.map .choice
  finished : w.ending = .finished → (∃ s, r.outcome = .ok (.continued s)) ∧
    r.entries.filterMap Script.Entry.command? = w.kept ∧ r.entries.Sublist entries ∧
    r.entries.filterMap Script.Entry.job? = entries.filterMap Script.Entry.job?
  quit : w.ending = .quit → r.outcome = .ok .terminated
  closed : w.ending = .closed → r.outcome = .error (.unanswered .closed)

open Dialogue

variable {α : Type} {d : Dialogue α} {acts : List Act} {r : Except GenerationError α} {a : α}

/-- A selection that skips the rest lets through neither commands nor notices. -/
def passesSkipped : Act → Bool
  | .load .. => true
  | .job _ => true
  | _ => false

theorem performs_select_skipAll (h : Performs d acts (.ok a)) (interactive : Bool) :
    Performs (select interactive .skipAll d) (acts.filter passesSkipped)
      (.ok (.continued .skipAll)) := by
  generalize hr : Except.ok a = r at h
  induction h with
  | done b => exact .done _
  | fail e => cases hr
  | act b h ih =>
    cases b with
    | load path depth => exact .act _ (ih hr)
    | job name => exact .act _ (ih hr)
    | emit c => exact ih hr
    | notice message colour => exact ih hr

theorem performs_select_acceptAll (h : Performs d acts (.ok a)) (interactive : Bool) :
    Performs (select interactive .acceptAll d) acts (.ok (.continued .acceptAll)) := by
  rw [select_eq_bind rfl (by cases interactive <;> rfl)]
  have hdone := h.bind (f := fun _ => .done (Flow.continued .acceptAll)) (.done _)
  rwa [List.append_nil] at hdone

/-- A list of answers stays as it is while nothing is asked. -/
theorem run_scripted (h : Performs d acts r) (s : Scripted) :
    (d.run s).prompter.asked = s.asked ∧ (d.run s).prompter.responses = s.responses := by
  induction h generalizing s with
  | done a => exact ⟨rfl, rfl⟩
  | fail e => exact ⟨rfl, rfl⟩
  | act b h ih =>
    obtain ⟨hasked, hresponses⟩ := ih (afterAct s b)
    cases b <;> exact ⟨hasked, hresponses⟩

/-- What an interactive selection does with a command on which a choice is given. -/
def afterChoice (s : Session) (c : Command) (next : Unit → Dialogue α) (choice : Choice) :
    Dialogue Flow :=
  let behind (_ : Unit) : Dialogue Flow :=
    match choice.decision with
    | .keep => .act (.emit c) fun _ => select true (s.after choice) (next ())
    | .drop => select true (s.after choice) (next ())
    | .quit => .act terminating fun _ => .done .terminated
  if s.after choice = s then behind () else .act (standing (s.after choice)) behind

namespace Follows

variable {w : Walk} {before : List Question} {entries : List Script.Entry}

/-- An act in front that adds a command is a command that the walk keeps. -/
theorem act {b : Act} {d : Dialogue Flow} {s : Scripted}
    (h : Follows (d.run (afterAct s b)) w before entries) :
    Follows ((Dialogue.act b fun _ => d).run s)
      { w with kept := (b.added?.bind Script.Entry.command?).toList ++ w.kept } before
      (b.added?.toList ++ entries) := by
  have hentries : ((Dialogue.act b fun _ => d).run s).entries =
      b.added?.toList ++ (d.run (afterAct s b)).entries := by
    simp only [Run.entries, Dialogue.run, List.filterMap_cons, Act.added?]
    cases Event.entry? (.acted b) <;> rfl
  refine ⟨h.asked, h.responses, fun hw => ?_, h.quit, h.closed⟩
  obtain ⟨houtcome, hkept, hsub, hjobs⟩ := h.finished hw
  refine ⟨houtcome, ?_, ?_, ?_⟩
  · rw [hentries, List.filterMap_append, hkept]
    cases b.added? <;> rfl
  · rw [hentries]
    exact hsub.append_left _
  · rw [hentries, List.filterMap_append, hjobs, List.filterMap_append]

/-- A command that is dropped may be one of the entries. -/
theorem drop {r : Run Flow Scripted} (h : Follows r w before entries) (c : Command) :
    Follows r w before (.command c :: entries) := by
  refine ⟨h.asked, h.responses, fun hw => ?_, h.quit, h.closed⟩
  obtain ⟨houtcome, hkept, hsub, hjobs⟩ := h.finished hw
  exact ⟨houtcome, hkept, hsub.cons _, hjobs⟩

/-- A question about a command consumes one choice. -/
theorem ask (choice : Choice) {c : Command} {next : Unit → Dialogue α} {cs : List Choice}
    {notices : List String}
    (h : Follows ((afterChoice .undecided c next choice).run
      (⟨cs.map .choice, before ++ [question c], notices⟩ : Scripted)) w (before ++ [question c])
      entries) :
    Follows ((select true .undecided (.act (.emit c) next)).run
      (⟨(choice :: cs).map .choice, before, notices⟩ : Scripted))
      { w with asked := c :: w.asked } before entries := by
  refine ⟨?_, h.responses, h.finished, h.quit, h.closed⟩
  have hasked := h.asked
  rw [List.append_assoc] at hasked
  exact hasked

/-- A dialogue that asks nothing goes the way of a walk that asks nothing. -/
theorem performs {d : Dialogue Flow} {acts : List Act} {s' : Session}
    (h : Performs d acts (.ok (.continued s'))) (cs : List Choice) (before : List Question)
    (notices : List String) (hsub : (acts.filterMap Act.added?).Sublist entries)
    (hjobs : (acts.filterMap Act.added?).filterMap Script.Entry.job? =
      entries.filterMap Script.Entry.job?) :
    Follows (d.run (⟨cs.map .choice, before, notices⟩ : Scripted))
      ⟨(acts.filterMap Act.added?).filterMap Script.Entry.command?, [], cs, .finished⟩ before
      entries := by
  obtain ⟨houtcome, hevents⟩ := h.run (⟨cs.map .choice, before, notices⟩ : Scripted)
  obtain ⟨hasked, hresponses⟩ := run_scripted h ⟨cs.map .choice, before, notices⟩
  have hentries := h.run_entries (⟨cs.map .choice, before, notices⟩ : Scripted)
  refine ⟨by simp [hasked], hresponses, fun _ => ?_, nofun, nofun⟩
  rw [hentries]
  exact ⟨⟨s', houtcome⟩, rfl, hsub, hjobs⟩

end Follows

/-- What is added to a script while the rest is skipped: the jobs and no command. -/
theorem added_filter_passesSkipped (acts : List Act) :
    let added := (acts.filter passesSkipped).filterMap Act.added?
    added.filterMap Script.Entry.command? = [] ∧ added.Sublist (acts.filterMap Act.added?) ∧
      added.filterMap Script.Entry.job? =
        (acts.filterMap Act.added?).filterMap Script.Entry.job? := by
  induction acts with
  | nil => exact ⟨rfl, .refl _, rfl⟩
  | cons b acts ih =>
    obtain ⟨hcommands, hsub, hjobs⟩ := ih
    cases b with
    | load path depth => exact ⟨hcommands, hsub, hjobs⟩
    | job name => exact ⟨hcommands, hsub.cons_cons _, congrArg (name :: ·) hjobs⟩
    | emit c => exact ⟨hcommands, hsub.cons _, hjobs⟩
    | notice message colour => exact ⟨hcommands, hsub, hjobs⟩

/-- An interactive selection of a dialogue that asks nothing goes the way of the walk over the
commands of that dialogue. -/
theorem follows_walk (h : Performs d acts (.ok a)) (cs : List Choice) (before : List Question)
    (notices : List String) :
    Follows ((select true .undecided d).run (⟨cs.map .choice, before, notices⟩ : Scripted))
      (walk ((acts.filterMap Act.added?).filterMap Script.Entry.command?) cs) before
      (acts.filterMap Act.added?) := by
  generalize hr : Except.ok a = r at h
  induction h generalizing cs before notices with
  | done b => exact .performs (.done _) cs before notices (.refl _) rfl
  | fail e => cases hr
  | @act b next acts r h ih =>
    cases b with
    | load path depth => exact .act (ih cs before notices hr)
    | job name => exact .act (ih cs before notices hr)
    | notice message colour => exact .act (ih cs before _ hr)
    | emit c =>
      subst hr
      cases cs with
      | nil => exact ⟨rfl, rfl, nofun, nofun, fun _ => rfl⟩
      | cons choice cs =>
        cases choice with
        | yes =>
          have hnext := (ih cs (before ++ [question c]) notices rfl).act (b := .emit c)
          exact .ask .yes hnext
        | no => exact .ask .no ((ih cs _ notices rfl).drop c)
        | acceptRemaining =>
          have hrest (told : List String) :=
            (Follows.performs (performs_select_acceptAll h true) cs (before ++ [question c]) told
              (.refl _) rfl).act (b := .emit c)
          exact .ask .acceptRemaining (.act (hrest _))
        | skipRemaining =>
          obtain ⟨hcommands, hsub, hjobs⟩ := added_filter_passesSkipped acts
          have hrest (told : List String) :=
            Follows.performs (performs_select_skipAll h true) cs (before ++ [question c]) told
              (hsub.cons (Script.Entry.command c)) hjobs
          rw [hcommands] at hrest
          exact .ask .skipRemaining (.act (hrest _))
        | quit => exact ⟨rfl, rfl, nofun, fun _ => rfl, nofun⟩

end Selection
end PipelineScript
