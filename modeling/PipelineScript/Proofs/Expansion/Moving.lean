import PipelineScript.Proofs.Dialogue.Moving
import PipelineScript.Proofs.Expansion.Footprint
import PipelineScript.Proofs.FileSystem.Moving
import PipelineScript.Proofs.FileSystem.OfFiles

/-!
# Moving the definitions

Definitions may be kept in any directory, if no reference in them leads up or to the root. Wherever
the same tree is found, the same is asked, shown and built, and a failure is the same but for the
path that it reports. The system alone can tell the places from each other: a path in one of them
may be too long.
-/

namespace PipelineScript

open Dialogue PipelineScript.Path

/-! ### Loading from two places -/

namespace FileSystem

variable {fs fs' : FileSystem} {D D' path path' : Path}

/-- Corresponding paths have the same definition, in which references are made alike, and the same
name is shown for them; or they have none for the same reason. -/
structure LoadsAlike (fs fs' : FileSystem) (D D' path path' : Path) : Prop where
  moved : ResultMoved (Corresponds D D') (fs.library path) (fs'.library path')
  below {n : Node} (h : fs.library path = .ok n) :
    Expansion.templateName path = Expansion.templateName path' ∧
      CorrespondsBelow D D' path.directory path'.directory

variable {E E' : Path} {l l' : Location} {reference : String}

private theorem loadsAlike_join (hsame : ∀ m, fs.entry (l ++ m) = fs'.entry (l' ++ m))
    (h : LeadsTo fs E l) (h' : LeadsTo fs' E' l')
    (hwithin : ∀ {path path'}, Corresponds E E' path path' → Corresponds D D' path path')
    (hreference : LeadsDown reference)
    (hlength : (E.join reference).text.utf8ByteSize < maxPathBytes ↔
      (E'.join reference).text.utf8ByteSize < maxPathBytes) :
    LoadsAlike fs fs' D D' (E.join reference) (E'.join reference) := by
  have hread := read_join_sameTree hsame h h' hreference hlength
  have hcorresponds : Corresponds D D' (E.join reference) (E'.join reference) :=
    hwithin ⟨reference, hreference, .inl ⟨rfl, rfl⟩⟩
  constructor
  · rw [library, library, ← hread]
    cases fs.read (E.join reference) with
    | error fault => exact .error (.unreadable hcorresponds fault)
    | ok text =>
      cases hparse : Node.parse text with
      | error fault =>
        simp only [hparse]
        exact .error (.malformed hcorresponds fault)
      | ok n =>
        simp only [hparse]
        exact .ok n
  · intro n hn
    obtain ⟨text, htext, -⟩ := library_cases hn
    obtain ⟨k, hk, htrivial⟩ := exists_name_of_read h hreference htext
    obtain ⟨⟨name, hname⟩, -⟩ := exists_directory_join hreference hk htrivial
    constructor
    · rw [Expansion.templateName, Expansion.templateName, hname E h.absolute,
        hname E' h'.absolute]
      rfl
    · exact fun further hfurther => hwithin
        (correspondsBelow_directory h.absolute h'.absolute hreference hk htrivial further hfurther)

/-- Corresponding paths are loaded alike unless only one of them is too long. -/
theorem loadsAlike_of_corresponds (hD : D.isAbsolute = true) (hD' : D'.isAbsolute = true)
    (htree : SameTree fs D fs' D') (h : Corresponds D D' path path')
    (hlength : path.text.utf8ByteSize < maxPathBytes ↔ path'.text.utf8ByteSize < maxPathBytes) :
    LoadsAlike fs fs' D D' path path' := by
  obtain ⟨l, l', hl, hl', hsame⟩ := htree
  have hleads := LeadsTo.of_locate hD hl
  have hleads' := LeadsTo.of_locate hD' hl'
  obtain ⟨reference, hreference, ⟨rfl, rfl⟩ | ⟨rfl, rfl⟩⟩ := h
  · exact loadsAlike_join hsame hleads hleads' id hreference hlength
  · exact loadsAlike_join hsame hleads.trimmed hleads'.trimmed (.of_trimmed hD hD') hreference
      hlength

end FileSystem

/-! ### Expanding in two places -/

namespace Expansion

variable {s : Settings} {D D' : Path}

theorem moved_bindParameters {R : Path → Path → Prop} (template : String) (ps : List String)
    (b : Bindings) :
    Moved R (bindParameters template ps b) (bindParameters template ps b) := by
  induction ps generalizing b with
  | nil => exact .done b
  | cons q ps ih =>
    rw [bindParameters]
    split_ifs
    · exact ih b
    · refine .ask _ fun r => ?_
      rcases r with e | response
      · cases e with
        | unavailable => exact .fail (.missingParameter _ _)
        | _ => exact .fail (.unanswered _)
      · cases response with
        | text value => exact ih _
        | choice c => exact .fail (.missingParameter _ _)

theorem moved_command {R : Path → Path → Prop} (b : Bindings) (c : StepCommand) :
    Moved R (command s b c) (command s b c) := by
  rw [command]
  split
  · exact .perform (.notice _ _)
  · split_ifs
    · exact .done ()
    · exact .perform (.emit _)

theorem moved_stepsWith {R : Path → Path → Prop} {nested nested' : Path → Bindings → Dialogue Unit}
    {base base' : Path} (b : Bindings) (depth : Nat) {l : List Step}
    (hnested : ∀ step ∈ l, ∀ r, step.reference? s = some r → ∀ b,
      Moved R (nested (base.join r.path) b) (nested' (base'.join r.path) b)) :
    Moved R (stepsWith s nested ⟨base, b, depth⟩ l) (stepsWith s nested' ⟨base', b, depth⟩ l) := by
  induction l with
  | nil => exact .done ()
  | cons step rest ih =>
    have hrest := ih fun step' hstep' => hnested step' (List.mem_cons_of_mem _ hstep')
    refine .bind ?_ fun _ => .bind ?_ fun _ => hrest
    · rw [elim_template, elim_template]
      cases hr : step.reference? s with
      | none => exact .done ()
      | some r => exact hnested step List.mem_cons_self r hr _
    · cases step.command with
      | none => exact .done ()
      | some c => exact moved_command b c

section Files

variable {fs fs' : FileSystem} {entry : Path} {p : Pipeline}
  (hloads : ∀ path path', IsRequested s fs.library entry p path → Corresponds D D' path path' →
    fs.LoadsAlike fs' D D' path path')
  (hplain : ∀ directory step r, Reached s fs.library entry p directory step →
    step.reference? s = some r → LeadsDown r.path)
include hloads hplain

theorem moved_templateFrom {path path' : Path} (hcorresponds : Corresponds D D' path path')
    (hrequested : IsRequested s fs.library entry p path)
    (hreached : ∀ n, fs.library path = .ok n → ∀ step ∈ (Template.ofNode n).steps,
      Reached s fs.library entry p path.directory step) (levels depth : Nat) (b : Bindings) :
    Moved (Corresponds D D') (templateFrom s fs.library levels depth path b)
      (templateFrom s fs'.library levels depth path' b) := by
  induction levels generalizing depth path path' b with
  | zero => exact .fail (.nestedTooDeep hcorresponds _)
  | succ levels ih =>
    have hload := hloads path path' hrequested hcorresponds
    rw [templateFrom_succ, templateFrom_succ]
    refine .act (.load hcorresponds depth) (.ofExcept_bind hload.moved fun n hn => ?_)
    obtain ⟨hname, hbelow⟩ := hload.below hn
    rw [hname]
    refine .bind (moved_bindParameters _ _ b) fun b' =>
      moved_stepsWith _ _ fun step hstep r hr => ?_
    have hstep := hreached n hn step hstep
    exact ih (hbelow r.path (hplain _ step r hstep hr)) ⟨_, step, r, hstep, hr, rfl⟩
      (fun n' hn' _ hmem => .ofTemplate hstep hr hn' hmem) (depth + 1)

variable {entry' : Path} (hbelow : CorrespondsBelow D D' entry.directory entry'.directory)
include hbelow

theorem moved_steps {l : List Step}
    (hreached : ∀ step ∈ l, Reached s fs.library entry p entry.directory step) :
    Moved (Corresponds D D') (steps s fs.library (.root entry.directory) l)
      (steps s fs'.library (.root entry'.directory) l) := by
  refine moved_stepsWith _ _ fun step hstep r hr => ?_
  have hstep := hreached step hstep
  exact moved_templateFrom hloads hplain (hbelow r.path (hplain _ step r hstep hr))
    ⟨_, step, r, hstep, hr, rfl⟩ (fun n hn _ hmem => .ofTemplate hstep hr hn hmem) _ _

theorem moved_jobs {js : List Job} (hjs : ∀ j ∈ js, j ∈ p.jobs) :
    Moved (Corresponds D D') (jobs s fs.library entry.directory js)
      (jobs s fs'.library entry'.directory js) := by
  induction js with
  | nil => exact .done ()
  | cons j js ih =>
    rw [jobs_cons, jobs_cons]
    refine .bind ?_ fun _ => ih fun j' hj' => hjs j' (List.mem_cons_of_mem _ hj')
    split_ifs with hdeclares
    · have hj := hjs j List.mem_cons_self
      refine .bind (.perform (.job j.name)) fun _ => ?_
      exact moved_steps hloads hplain hbelow fun step hstep => .ofJob hj hdeclares hstep
    · exact .done ()

end Files

end Expansion

/-! ### Building in two places -/

variable {σ : Type} [Prompting σ]

/-- Two outcomes are the same, except for corresponding paths that are loaded or reported. -/
structure Outcome.Moved (R : Path → Path → Prop) {α : Type} (built built' : Outcome α σ) :
    Prop where
  result : ResultMoved R built.result built'.result
  events : List.Forall₂ (Event.Moved R) built.events built'.events
  prompter : built.prompter = built'.prompter

/-- A pipeline is loaded alike by means of the definitions of related paths, if it is there. -/
theorem Pipeline.load_moved {R : Path → Path → Prop} {library library' : Library}
    {path path' : Path} (hpath : R path path')
    (h : ResultMoved R (library path) (library' path')) :
    (∃ e e', load library path = .error e ∧ load library' path' = .error e' ∧ e.Moved R e') ∨
      ∃ n p, library path = .ok n ∧ load library path = .ok p ∧ load library' path' = .ok p := by
  rw [load_eq, load_eq]
  generalize library path = x at h
  generalize library' path' = x' at h
  cases h with
  | error h => exact .inl ⟨_, _, rfl, rfl, h⟩
  | ok n =>
    simp only [Except.bind]
    cases ofNode? n with
    | none => exact .inl ⟨_, _, rfl, rfl, .missingJobs hpath⟩
    | some p => exact .inr ⟨n, p, rfl, rfl, rfl⟩

/-- Moving the definitions changes nothing, as far as no path gets too long for the system. If the
same tree is found below two directories, and all references that are not excluded lead down, the
runs of an entry in the tree ask, show and build the same, or fail in the same way. Only the paths
that are loaded or reported differ, and these correspond. -/
theorem buildScript_moved (s : Settings) {fs fs' : FileSystem} {D D' : Path}
    (hD : D.isAbsolute = true) (hD' : D'.isAbsolute = true)
    (htree : FileSystem.SameTree fs D fs' D') {reference : String}
    (hreference : LeadsDown reference)
    (hplain : ∀ p, Pipeline.load fs.library (D.join reference) = .ok p → ∀ directory step r,
      Reached s fs.library (D.join reference) p directory step → step.reference? s = some r →
        LeadsDown r.path)
    (hlength : ∀ path path', Footprint s fs.library (D.join reference) path →
      Corresponds D D' path path' →
        (path.text.utf8ByteSize < FileSystem.maxPathBytes ↔
          path'.text.utf8ByteSize < FileSystem.maxPathBytes))
    (prompter : σ) :
    (buildScript s fs.library (D.join reference) prompter).Moved (Corresponds D D')
      (buildScript s fs'.library (D'.join reference) prompter) := by
  have hentry : Corresponds D D' (D.join reference) (D'.join reference) :=
    ⟨reference, hreference, .inl ⟨rfl, rfl⟩⟩
  have hloads {path path' : Path} (hpath : Footprint s fs.library (D.join reference) path)
      (hcorresponds : Corresponds D D' path path') : fs.LoadsAlike fs' D D' path path' :=
    fs.loadsAlike_of_corresponds hD hD' htree hcorresponds (hlength _ _ hpath hcorresponds)
  have hload := hloads (.inl rfl) hentry
  rw [buildScript, buildScript]
  obtain ⟨e, e', he, he', herror⟩ | ⟨n, p, hn, hp, hp'⟩ := Pipeline.load_moved hentry hload.moved
  · rw [he, he']
    exact ⟨.error herror, .nil, rfl⟩
  · rw [hp, hp']
    have hexpansion := Expansion.moved_jobs
      (fun path path' hrequested hcorresponds => hloads (.inr ⟨p, hp, hrequested⟩) hcorresponds)
      (hplain p hp) (hload.below hn).2 fun j hj => hj
    have hselected : Moved (Corresponds D D')
        (expandPipeline s fs.library p (D.join reference).directory)
        (expandPipeline s fs'.library p (D'.join reference).directory) := by
      rw [expandPipeline_eq_select, expandPipeline_eq_select]
      exact Selection.moved_select hexpansion s.interactive .undecided
    obtain ⟨hresult, hevents, hprompter⟩ := hselected.run prompter
    refine ⟨?_, hevents, hprompter⟩
    simp only [Run.entries, entries_eq_of_moved hevents]
    exact hresult.map _

/-- A pipeline with a template in a directory, which refers to one that is missing. -/
def nestedFiles : List (Location × String) :=
  [(["s", "p"], "jobs:\n- steps:\n  - template: x\\t\n    script: make\n"),
    (["s", "x", "t"], "steps:\n- template: ./u\n- script: lint\n")]

/-- The pipeline in `nestedFiles`. -/
def nestedPipeline : Pipeline :=
  ⟨[⟨unnamedJob, [⟨some ⟨"x/t", []⟩, some ⟨none, none, "make"⟩⟩], true⟩]⟩

/-- The steps that an expansion comes to when the files are in `/a`. -/
def nestedPlaces : List (Path × Step) :=
  [(⟨"/a/s"⟩, ⟨some ⟨"x/t", []⟩, some ⟨none, none, "make"⟩⟩),
    (⟨"/a/s/x"⟩, ⟨some ⟨"./u", []⟩, none⟩), (⟨"/a/s/x"⟩, ⟨none, some ⟨none, none, "lint"⟩⟩)]

/-- A template that is missing is reported where it is looked for. -/
theorem buildScript_moved_missing :
    let s : Settings := {}
    let fs := FileSystem.ofFilesIn ["a"] nestedFiles
    let fs' := FileSystem.ofFilesIn ["b", "c"] nestedFiles
    let D : Path := ⟨"/a"⟩
    let D' : Path := ⟨"/b/./c/"⟩
    let built := buildScript s fs.library (D.join "s/p") (⟨""⟩ : Unattended)
    let built' := buildScript s fs'.library (D'.join "s/p") (⟨""⟩ : Unattended)
    D.isAbsolute = true ∧ D'.isAbsolute = true ∧ FileSystem.SameTree fs D fs' D' ∧
      LeadsDown "s/p" ∧ built.Moved (Corresponds D D') built' ∧
      built.result = .error (.unreadable ⟨"/a/s/x/./u"⟩ .notFound) ∧
      built'.result = .error (.unreadable ⟨"/b/./c/s/x/./u"⟩ .notFound) := by
  intro s fs fs' D D' built built'
  have hload : Pipeline.load fs.library (D.join "s/p") = .ok nestedPipeline := by decide +kernel
  have hwithin : suppliesWithin s fs.library (D.join "s/p") nestedPipeline nestedPlaces = true := by
    decide +kernel
  have htree : FileSystem.SameTree fs D fs' D' := by
    refine ⟨["a"], ["b", "c"], by decide +kernel, by decide +kernel, fun m => ?_⟩
    rw [FileSystem.ofFilesIn_entry_append, FileSystem.ofFilesIn_entry_append]
  have hplain (p : Pipeline) (hp : Pipeline.load fs.library (D.join "s/p") = .ok p)
      (directory : Path) (step : Step) (r : TemplateReference)
      (hreached : Reached s fs.library (D.join "s/p") p directory step)
      (hr : step.reference? s = some r) : LeadsDown r.path := by
    obtain rfl := Except.ok.inj (hload.symm.trans hp)
    have hall : ∀ place ∈ nestedPlaces, ∀ r ∈ place.2.reference? s, LeadsDown r.path := by
      decide +kernel
    exact hall _ (hreached.mem_of_suppliesWithin hwithin) r hr
  have hlength (path path' : Path) (hpath : Footprint s fs.library (D.join "s/p") path)
      (hcorresponds : Corresponds D D' path path') :
      path.text.utf8ByteSize < FileSystem.maxPathBytes ↔
        path'.text.utf8ByteSize < FileSystem.maxPathBytes := by
    have hshort : path.text.utf8ByteSize ≤ 20 := by
      rcases hpath with rfl | ⟨p, hp, directory, step, r, hreached, hr, rfl⟩
      · decide +kernel
      · obtain rfl := Except.ok.inj (hload.symm.trans hp)
        have hall : ∀ place ∈ nestedPlaces, ∀ r ∈ place.2.reference? s,
            (place.1.join r.path).text.utf8ByteSize ≤ 20 := by
          decide +kernel
        exact hall _ (hreached.mem_of_suppliesWithin hwithin) r hr
    have hlonger := hcorresponds.utf8ByteSize_le (by decide) (by decide)
    have hdirectory : max D'.text.utf8ByteSize D'.trimmed.text.utf8ByteSize = 7 := by
      decide +kernel
    rw [FileSystem.maxPathBytes]
    omega
  exact ⟨by decide, by decide, htree, by decide, buildScript_moved s (by decide) (by decide) htree
    (by decide) hplain hlength _, by decide +kernel, by decide +kernel⟩

/-- One job with one command. -/
def plainFiles : List (Location × String) :=
  [(["ci"], "jobs:\n- steps:\n  - script: make\n")]

/-- The pipeline in `plainFiles`. -/
def plainPipeline : Pipeline :=
  ⟨[⟨unnamedJob, [⟨none, some ⟨none, none, "make"⟩⟩], true⟩]⟩

/-- The same files in two directories, of which one is written with so many dots that the path of
the entry is too long, though its own path is not. -/
theorem buildScript_too_long :
    let s : Settings := {}
    let fs := FileSystem.ofFilesIn ["a"] plainFiles
    let fs' := FileSystem.ofFilesIn ["b"] plainFiles
    let D : Path := ⟨"/a"⟩
    let D' : Path := (Path.mk "/b").withDots 2046
    (D.isAbsolute = true ∧ D'.isAbsolute = true ∧ ".." ∉ D.segments ∧ ".." ∉ D'.segments) ∧
      FileSystem.SameTree fs D fs' D' ∧ LeadsDown "ci" ∧
      (∀ p, Pipeline.load fs.library (D.join "ci") = .ok p → ∀ directory step r,
        Reached s fs.library (D.join "ci") p directory step → step.reference? s = some r →
          LeadsDown r.path) ∧
      (buildScript s fs.library (D.join "ci") (⟨""⟩ : Unattended)).result =
        .ok (some ⟨{}, ".", [.job unnamedJob, .command ⟨unnamedCommand, "make"⟩]⟩) ∧
      (buildScript s fs'.library (D'.join "ci") (⟨""⟩ : Unattended)).result =
        .error (.unreadable (D'.join "ci") .nameTooLong) := by
  intro s fs fs' D D'
  have hb : fs'.LeadsTo ⟨"/b"⟩ ["b"] := .of_locate (by decide) (by decide +kernel)
  have hleads : fs'.LeadsTo D' ["b"] := hb.withDots (by decide +kernel) 2046
  have hsize : D'.text.utf8ByteSize = 4094 := by
    rw [utf8ByteSize_withDots]
    decide
  have hlocate : fs'.locate D' = .ok ["b"] := hleads.locate (by rw [hsize]; decide)
  refine ⟨⟨by decide, hleads.absolute, by decide, ?_⟩, ⟨["a"], ["b"], by decide +kernel, hlocate,
    fun m => ?_⟩, by decide, fun p hp directory step r hreached hr => ?_, by decide +kernel, ?_⟩
  · rw [segments_withDots, List.mem_append, List.mem_replicate]
    decide
  · rw [FileSystem.ofFilesIn_entry_append, FileSystem.ofFilesIn_entry_append]
  · have hload : Pipeline.load fs.library (D.join "ci") = .ok plainPipeline := by decide +kernel
    obtain rfl := Except.ok.inj (hload.symm.trans hp)
    have hwithin : suppliesWithin s fs.library (D.join "ci") plainPipeline
        [(⟨"/a"⟩, ⟨none, some ⟨none, none, "make"⟩⟩)] = true := by decide +kernel
    have hmem := List.mem_singleton.1 (hreached.mem_of_suppliesWithin hwithin)
    rw [(Prod.mk.inj hmem).2] at hr
    cases hr
  · have hlong : FileSystem.maxPathBytes ≤ (D'.join "ci").text.utf8ByteSize := by
      have hjoin := (utf8ByteSize_join (text_ne_empty hleads.absolute)
        (show (Path.mk "ci").isAbsolute = false by decide)).1
      rw [hsize] at hjoin
      exact hjoin
    have hread : fs'.read (D'.join "ci") = .error .nameTooLong := by
      rw [FileSystem.read, hleads.locate_join (by decide), if_neg (by decide), if_pos hlong]
      rfl
    have hload : Pipeline.load fs'.library (D'.join "ci") =
        .error (.unreadable (D'.join "ci") .nameTooLong) := by
      rw [Pipeline.load, FileSystem.library, hread]
      rfl
    rw [buildScript, hload]

end PipelineScript
