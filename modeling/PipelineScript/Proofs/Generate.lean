import PipelineScript.Proofs.FileSystem.Writing
import PipelineScript.Proofs.Generate.Conversation
import PipelineScript.Proofs.Validation

/-!
# What answering a request does to the files

A request either leaves the file system as it is or writes its script to the one path that came out
of the check of the output. Nothing that happens before the script is built touches a file, and if
the path led to something before, its replacement has been consented to.
-/

namespace PipelineScript

open Validation

variable {α σ : Type}

/-- A request ends behind a check with all files as before, or it goes on with the path that has
been checked. -/
theorem thenWith_cases (r : Result σ) (fs : FileSystem) (next : Path → σ → Generated σ) :
    ((r.thenWith fs next).fileSystem = fs ∧ ∀ w, (r.thenWith fs next).result ≠ .ok (some w)) ∨
      ∃ p s, r = (.ok (some p), s) ∧ r.thenWith fs next = next p s := by
  rcases r with ⟨_ | _ | p, s⟩
  · exact .inl ⟨rfl, fun w h => by cases h⟩
  · exact .inl ⟨rfl, fun w h => by cases h⟩
  · exact .inr ⟨p, s, rfl, rfl⟩

/-- The record of a build is what was asked in it. -/
theorem record_buildScript [Prompting σ] (s : Settings) (library : Library) (path : Path)
    (t : Recorder σ) :
    let built := buildScript s library path t
    built.prompter.record =
      t.record ++ built.events.filterMap Dialogue.Event.exchange? := by
  rw [buildScript]
  cases Pipeline.load library path with
  | error e => simp
  | ok p => exact Dialogue.record_run _ t

/-! ### What a request comes to -/

/-- A script is written, executable, at the location to which its path leads, or no file is touched:
once it is written, it is made executable too. -/
theorem Script.writeTo_cases [Quoting] (script : Script) (fs : FileSystem) (output : Path) :
    (∃ l, script.writeTo fs output = (.ok (), fs.set l (.file ⟨some script.finish, true⟩)) ∧
        (fs.set l (.file ⟨some script.finish, true⟩)).locate output = .ok l) ∨
      ∃ fault, script.writeTo fs output = (.error (.unwritable output fault), fs) := by
  rw [writeTo]
  cases hwrite : fs.write output script.finish with
  | error fault => exact .inr ⟨fault, rfl⟩
  | ok fs' =>
    obtain ⟨l, -, hlocate, hexecutable⟩ := FileSystem.makeExecutable_of_write hwrite
    refine .inl ⟨l, ?_, hlocate⟩
    simp only [hexecutable]

theorem Script.exists_set_of_writeTo [Quoting] (script : Script) {fs fs' : FileSystem}
    {output : Path} (h : script.writeTo fs output = (.ok (), fs')) :
    ∃ l, fs' = fs.set l (.file ⟨some script.finish, true⟩) ∧ fs'.locate output = .ok l := by
  obtain ⟨l, hset, hlocate⟩ | ⟨fault, hfault⟩ := script.writeTo_cases fs output
  · obtain rfl : fs' = _ := congrArg Prod.snd (h.symm.trans hset)
    exact ⟨l, rfl, hlocate⟩
  · cases h.symm.trans hfault

/-- A script that has been built is written, and otherwise the files stay as they are. -/
theorem generateScript_cases [Quoting] [Prompting σ] (s : Settings) (fs : FileSystem)
    (path output : Path) (t : σ) :
    let built := buildScript s fs.library path t
    let g := generateScript s fs path output t
    (∃ script, built.result = .ok (some script) ∧
        script.writeTo fs output = (.ok (), g.2) ∧
        g.1 = ⟨.ok (some ⟨output, script.commands⟩), built.events, built.prompter⟩) ∨
      (g.2 = fs ∧ ∀ w, g.1.result ≠ .ok (some w)) := by
  simp only [generateScript]
  rcases buildScript s fs.library path t with ⟨_ | _ | script, events, t'⟩
  · exact .inr ⟨rfl, fun w h => by cases h⟩
  · exact .inr ⟨rfl, fun w h => by cases h⟩
  · obtain ⟨l, hwritten, -⟩ | ⟨fault, hfault⟩ := script.writeTo_cases fs output
    · left
      refine ⟨script, rfl, ?_, ?_⟩ <;> simp only [Outcome.written, hwritten]
      rfl
    · right
      simp only [Outcome.written, hfault]
      exact ⟨trivial, fun w h => by cases h⟩

variable [Quoting] [Prompter σ]

/-- A request writes a script, after all its paths have been checked, or it touches no file. -/
theorem generate_cases (r : Request) (c : Config) (fs : FileSystem) (s : σ) :
    let g := generate r c fs s
    (∃ input directory output s₁ s₂ s₃ script,
        checkInput fs r.path s = (.ok (some input), s₁) ∧
        checkDirectory fs r.workingDirectory s₁ = (.ok (some directory), s₂) ∧
        checkOutput fs r.force r.output s₂ = (.ok (some output), s₃) ∧
        let built := buildScript (.ofRequest r c directory.text) fs.library input s₃
        built.result = .ok (some script) ∧
        script.writeTo fs output = (.ok (), g.fileSystem) ∧
        g.result = .ok (some ⟨output, script.commands⟩) ∧ g.prompter = built.prompter) ∨
      (g.fileSystem = fs ∧ ∀ w, g.result ≠ .ok (some w)) := by
  rw [generate]
  obtain hkept | ⟨input, s₁, hinput, hg⟩ := thenWith_cases (checkInput fs r.path s) fs _
  · exact .inr hkept
  rw [hg]
  obtain hkept | ⟨directory, s₂, hdirectory, hg⟩ :=
    thenWith_cases (checkDirectory fs r.workingDirectory s₁) fs _
  · exact .inr hkept
  rw [hg]
  obtain hkept | ⟨output, s₃, houtput, hg⟩ :=
    thenWith_cases (checkOutput fs r.force r.output s₂) fs _
  · exact .inr hkept
  rw [hg]
  obtain ⟨script, hbuilt, hwrite, hwritten⟩ | ⟨hkept, hresult⟩ :=
    generateScript_cases (.ofRequest r c directory.text) fs input output s₃
  · left
    refine ⟨input, directory, output, s₁, s₂, s₃, script, hinput, hdirectory, houtput, hbuilt,
      hwrite, ?_, ?_⟩
    · simp only [hwritten]
      rfl
    · simp only [hwritten]
  · right
    refine ⟨hkept, fun w h => ?_⟩
    simp only at h
    cases hout : (generateScript (.ofRequest r c directory.text) fs input output s₃).1.result with
    | error e =>
      rw [hout] at h
      cases h
    | ok written =>
      rw [hout] at h
      cases h
      exact hresult _ hout

/-- Answering a request changes at most one file. If no script comes out of it, all files are as
before. Else the only change is at the location to which the path of the script leads, where the
text that was built for the checked paths is now, executable. If something was at the path before,
the question that names it has been answered with yes, unless the request was forced. -/
theorem generate_effects (r : Request) (c : Config) (fs : FileSystem) (s : σ) :
    let g := generate r c fs s
    let recorded := generate r c fs (Recorder.start s)
    recorded.mapPrompter Recorder.inner = g ∧
      ((∀ w, g.result ≠ .ok (some w)) → g.fileSystem = fs) ∧
      ∀ w, g.result = .ok (some w) →
        (∃ input directory s₁ s₂ s₃ script,
          checkInput fs r.path s = (.ok (some input), s₁) ∧
          checkDirectory fs r.workingDirectory s₁ = (.ok (some directory), s₂) ∧
          checkOutput fs r.force r.output s₂ = (.ok (some w.path), s₃) ∧
          (buildScript (.ofRequest r c directory.text) fs.library input s₃).result =
            .ok (some script) ∧
          w.commands = script.commands ∧
          g.fileSystem.find? w.path = some (.file ⟨some script.finish, true⟩)) ∧
        (∃ l, g.fileSystem.locate w.path = .ok l ∧ g.fileSystem.current = fs.current ∧
          ∀ m, m ≠ l → g.fileSystem.entry m = fs.entry m) ∧
        (r.force = false → fs.pathExists w.path = true →
          (overwriteQuestion w.path, .ok (.choice .yes)) ∈ recorded.prompter.record) := by
  intro g recorded
  have hrecorded : recorded.mapPrompter Recorder.inner = g :=
    (generate_inner r c fs (Recorder.start s)).symm
  have hresult : g.result = recorded.result := by rw [← hrecorded]; rfl
  have hfiles : g.fileSystem = recorded.fileSystem := by rw [← hrecorded]; rfl
  obtain ⟨input, directory, output, t₁, t₂, t₃, script, hinput, hdirectory, houtput, hbuilt,
    hwrite, hwritten, hprompter⟩ | ⟨hkept, hnone⟩ := generate_cases r c fs (Recorder.start s)
  · obtain ⟨l, hset, hlocate⟩ := script.exists_set_of_writeTo hwrite
    have hset' : recorded.fileSystem = fs.set l (.file ⟨some script.finish, true⟩) := hset
    have hlocate' : recorded.fileSystem.locate output = .ok l := hlocate
    refine ⟨hrecorded, fun h => absurd (hresult.trans hwritten) (h _), fun w hw => ?_⟩
    obtain rfl : ⟨output, script.commands⟩ = w :=
      Option.some.inj (Except.ok.inj ((hresult.trans hwritten).symm.trans hw))
    rw [hfiles]
    refine ⟨⟨input, directory, t₁.inner, t₂.inner, t₃.inner, script, ?_, ?_, ?_, ?_, rfl, ?_⟩,
      ⟨l, hlocate', ?_, fun m hm => ?_⟩, fun hforce hexists => ?_⟩
    · rw [checkInput] at hinput ⊢
      exact (check_inner _ _ (Recorder.start s)).trans (by rw [hinput]; rfl)
    · rw [checkDirectory] at hdirectory ⊢
      rw [check_inner, hdirectory]
      rfl
    · rw [checkOutput_inner, houtput]
      rfl
    · rw [buildScript_inner]
      exact hbuilt
    · rw [FileSystem.find?_of_locate hlocate', hset', FileSystem.set_entry_self]
    · rw [hset']
      rfl
    · rw [hset', FileSystem.set_entry_of_ne fs _ hm]
    · rw [hforce] at houtput
      have hconsent := mem_record_of_checkOutput houtput hexists
      rw [hprompter, record_buildScript]
      exact List.mem_append_left _ hconsent
  · exact ⟨hrecorded, fun _ => hfiles.trans hkept,
      fun w hw => absurd (hresult.symm.trans hw) (hnone w)⟩

end PipelineScript
