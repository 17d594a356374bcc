import PipelineScript.Generate
import PipelineScript.Proofs.Validation.Rounds

/-!
# A request is a dialogue

The checks of the paths and the build make up one dialogue, which is all that a request asks and
shows, as long as the checks are given enough rounds for the answers of the prompter. Whatever holds
of the runs of one dialogue with two prompters thus holds of a request.
-/

namespace PipelineScript

open Validation

variable {α σ τ : Type}

attribute [ext] Outcome Generated

/-! ### Other prompters -/

/-- The outcome with another prompter behind it. -/
def Outcome.mapPrompter (f : σ → τ) (o : Outcome α σ) : Outcome α τ :=
  ⟨o.result, o.events, f o.prompter⟩

/-- What a request ends with, with another prompter behind it. -/
def Generated.mapPrompter (f : σ → τ) (g : Generated σ) : Generated τ :=
  ⟨g.result, g.events, f g.prompter, g.fileSystem⟩

/-- Writing a script asks nobody. -/
theorem Outcome.written_mapPrompter [Quoting] (f : σ → τ) (o : Outcome Script σ)
    (fs : FileSystem) (output : Path) :
    (o.mapPrompter f).written fs output =
      Prod.map (Outcome.mapPrompter f) id (o.written fs output) := by
  obtain ⟨_ | _ | script, events, s⟩ := o
  · rfl
  · rfl
  · rfl

theorem Outcome.written_prompter [Quoting] (o : Outcome Script σ) (fs : FileSystem)
    (output : Path) :
    (o.written fs output).1.prompter = o.prompter := by
  obtain ⟨_ | _ | script, events, s⟩ := o
  · rfl
  · rfl
  · rfl

/-! ### The dialogue -/

/-- The build of a script, with what happened in it, as a dialogue. -/
def building (s : Settings) (library : Library) (path : Path) : Dialogue (Outcome Script Unit) :=
  match Pipeline.load library path with
  | .error e => .done ⟨.error e, [], ()⟩
  | .ok p => (expandPipeline s library p path.directory).listen.bind fun r =>
    let result := r.outcome.map fun
      | .continued _ => some ⟨s.script, s.workingDirectory, r.entries⟩
      | .terminated => none
    .done ⟨result, r.events, ()⟩

/-- Goes on with a path that has been checked. -/
def proceeding (fs : FileSystem) (next : Path → Dialogue (Generated Unit)) (v : Verdict) :
    Dialogue (Generated Unit) :=
  match v with
  | .error f => .done ⟨.error f, [], (), fs⟩
  | .ok none => .done ⟨.ok none, [], (), fs⟩
  | .ok (some p) => next p

/-- A request as a dialogue, with so many rounds at most in each check. -/
def conversation [Quoting] (n : Nat) (r : Request) (c : Config) (fs : FileSystem) :
    Dialogue (Generated Unit) :=
  (checking fs (searchRound (inputRequirement fs)) n r.path).bind <|
  proceeding fs fun input =>
  (checking fs (searchRound (directoryRequirement fs)) n r.workingDirectory).bind <|
  proceeding fs fun directory =>
  (checking fs (outputRound fs r.force) n r.output).bind <|
  proceeding fs fun output =>
  (building (.ofRequest r c directory.text) fs.library input).bind fun built =>
    let (built, fs) := built.written fs output
    .done ⟨built.result.mapError (.generation input), built.events, (), fs⟩

theorem gives_building [Prompting σ] (s : Settings) (library : Library) (path : Path) (t : σ) :
    (building s library path).Gives t
      ((buildScript s library path t).mapPrompter fun _ => ())
      (buildScript s library path t).prompter := by
  rw [building, buildScript]
  cases Pipeline.load library path with
  | error e => exact .done _ t
  | ok p => exact (Dialogue.gives_listen _ t).bind (.done _ _)

/-- Building a script with a recorder is building it with the prompter behind it. -/
theorem buildScript_inner [Prompting σ] (s : Settings) (library : Library) (path : Path)
    (t : Recorder σ) :
    buildScript s library path t.inner =
      (buildScript s library path t).mapPrompter Recorder.inner := by
  obtain ⟨hbuilt, hprompter⟩ :=
    (gives_building s library path t.inner).inner (gives_building s library path t)
  injection hbuilt with hresult hevents
  exact Outcome.ext hresult hevents hprompter

variable [Prompter σ]

/-- What comes behind a check is given where it is given for the path that has been checked. -/
theorem gives_proceeding {fs : FileSystem} {d : Dialogue Verdict} {s : σ} {v : Result σ}
    (hd : Renders d s v) {next : Path → Dialogue (Generated Unit)} {next' : Path → σ → Generated σ}
    (hnext : ∀ p s', Prompter.supply s' ≤ Prompter.supply s →
      (next p).Gives s' ((next' p s').mapPrompter fun _ => ()) (next' p s').prompter) :
    (d.bind (proceeding fs next)).Gives s ((v.thenWith fs next').mapPrompter fun _ => ())
      (v.thenWith fs next').prompter := by
  refine hd.gives.bind ?_
  rcases v with ⟨_ | _ | p, s'⟩
  · exact .done _ s'
  · exact .done _ s'
  · exact hnext p s' (hd.supply p rfl)

/-- With rounds enough for the answers that there are, answering a request is running its
dialogue. -/
theorem gives_conversation [Quoting] {n : Nat} (r : Request) (c : Config) (fs : FileSystem) {s : σ}
    (hn : Prompter.supply s < n) :
    (conversation n r c fs).Gives s ((generate r c fs s).mapPrompter fun _ => ())
      (generate r c fs s).prompter := by
  refine gives_proceeding (renders_check _ _ hn) fun input s₁ h₁ => ?_
  have hn₁ := Nat.lt_of_le_of_lt h₁ hn
  refine gives_proceeding (renders_check _ _ hn₁) fun directory s₂ h₂ => ?_
  have hn₂ := Nat.lt_of_le_of_lt h₂ hn₁
  refine gives_proceeding (renders_checkOutput _ _ hn₂) fun output s₃ _ => ?_
  refine (gives_building _ _ _ _).bind ?_
  rw [Outcome.written_mapPrompter, ← Outcome.written_prompter _ fs output]
  exact .done _ _

/-- Answering a request with a recorder is answering it with the prompter behind it. -/
theorem generate_inner [Quoting] (r : Request) (c : Config) (fs : FileSystem) (t : Recorder σ) :
    generate r c fs t.inner = (generate r c fs t).mapPrompter Recorder.inner := by
  obtain ⟨hgenerated, hprompter⟩ :=
    (gives_conversation r c fs (s := t.inner) (Nat.lt_succ_self _)).inner
      (gives_conversation r c fs (s := t) (Nat.lt_succ_self _))
  injection hgenerated with hresult hevents _ hfiles
  exact Generated.ext hresult hevents hprompter hfiles

end PipelineScript
