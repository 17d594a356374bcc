import Mathlib.Data.List.Forall2
import Mathlib.Tactic.Common
import PipelineScript.Proofs.Expansion.Origin

/-!
# What a run reads

A run reads the entry definition and the templates to which references lead that are not excluded,
beginning with those of the entry. Nothing else in the files makes a difference to it. So a template
that is excluded may be missing or malformed, it may refer to itself or declare parameters that
nobody supplies; whether a reference is excluded depends on it but for its slashes and backslashes.
-/

namespace PipelineScript

open Dialogue

/-- The entry definition, or a template to which a reference leads that is not excluded. -/
def Footprint (s : Settings) (library : Library) (entry path : Path) : Prop :=
  path = entry ∨
    ∃ p, Pipeline.load library entry = .ok p ∧ IsRequested s library entry p path

/-! ### References -/

/-- Two characters are the same, or each is a slash or a backslash. -/
def SameSlash (c d : Char) : Prop :=
  c = d ∨ (c = '/' ∨ c = '\\') ∧ (d = '/' ∨ d = '\\')

/-- Two references are the same but for their slashes and backslashes. -/
def SameButSlashes (reference reference' : String) : Prop :=
  List.Forall₂ SameSlash reference.toList reference'.toList

theorem sameSlash_eq :
    SameSlash = fun c d => (if c = '\\' then '/' else c) = if d = '\\' then '/' else d := by
  funext c d
  rw [SameSlash, eq_iff_iff]
  split_ifs with hc hd hd
  · simp [hc, hd]
  · grind
  · grind
  · grind

theorem normalizeReference_eq_iff (reference reference' : String) :
    normalizeReference reference = normalizeReference reference' ↔
      SameButSlashes reference reference' := by
  have hlists (l l' : List Char) : l = l' ↔ List.Forall₂ (· = ·) l l' := by
    rw [List.forall₂_eq_eq_eq]
  rw [normalizeReference, normalizeReference, ← String.toList_inj, String.toList_map,
    String.toList_map, hlists, List.forall₂_map_left_iff, List.forall₂_map_right_iff,
    SameButSlashes, sameSlash_eq]

/-- A reference that is written with slashes stays as it is. -/
theorem normalizeReference_normalizeReference (reference : String) :
    normalizeReference (normalizeReference reference) = normalizeReference reference := by
  rw [normalizeReference, normalizeReference, ← String.toList_inj]
  simp only [String.toList_map, List.map_map]
  refine congrArg (List.map · _) (funext fun c => ?_)
  by_cases hc : c = '\\' <;> simp [hc]

/-- Whether the template that a node refers to is left out is decided by the reference as it is
written, but for its slashes and backslashes. -/
theorem Step.reference?_ofNode_eq_none_iff (s : Settings) {n : Node} {written : String}
    (hn : (n.get? "template").bind Node.text? = some written) :
    (Step.ofNode n).reference? s = none ↔
      ∃ rule ∈ s.exclusions.templates, SameButSlashes rule written := by
  have htemplate : (Step.ofNode n).template = some ⟨normalizeReference written,
      ((n.get? "parameters").map Bindings.ofNode).getD []⟩ := by
    rw [Step.ofNode, Step.templateOfNode, hn]
    rfl
  have hexcluded : (Step.ofNode n).reference? s = none ↔
      s.exclusions.excludesTemplate (normalizeReference written) = true := by
    rw [Step.reference?, htemplate]
    cases hx : s.exclusions.excludesTemplate (normalizeReference written) with
    | true => simp [hx]
    | false => simp [hx]
  rw [hexcluded, Exclusions.excludesTemplate, List.contains_iff_mem, List.mem_map,
    normalizeReference_normalizeReference]
  simp only [normalizeReference_eq_iff]

namespace Expansion

/-! ### Expansions with other files -/

variable {s : Settings} {library library' : Library} {entry : Path} {p : Pipeline}

/-- Steps are expanded in the same way if the templates that they refer to are. -/
theorem stepsWith_eq_of_nested {nested nested' : Path → Bindings → Dialogue Unit} {scope : Scope}
    {l : List Step} (h : ∀ step ∈ l, ∀ r, step.reference? s = some r →
      nested (scope.base.join r.path) = nested' (scope.base.join r.path)) :
    stepsWith s nested scope l = stepsWith s nested' scope l := by
  induction l with
  | nil => rfl
  | cons step rest ih =>
    rw [stepsWith, stepsWith, elim_template, elim_template,
      ih fun step' hstep' => h step' (List.mem_cons_of_mem _ hstep')]
    cases hr : step.reference? s with
    | none => rfl
    | some r => rw [Option.elim_some, Option.elim_some, h step List.mem_cons_self r hr]

variable (hagree : ∀ path, IsRequested s library entry p path → library path = library' path)
include hagree

theorem templateFrom_eq_of_agree {path : Path} (hrequested : IsRequested s library entry p path)
    (hreached : ∀ n, library path = .ok n → ∀ step ∈ (Template.ofNode n).steps,
      Reached s library entry p path.directory step) (levels depth : Nat) :
    templateFrom s library levels depth path = templateFrom s library' levels depth path := by
  induction levels generalizing depth path with
  | zero => rfl
  | succ levels ih =>
    funext b
    rw [templateFrom_succ, templateFrom_succ, ← hagree path hrequested]
    refine congrArg (Dialogue.act _) (funext fun _ => ?_)
    cases hn : library path with
    | error e => rfl
    | ok n =>
      rw [Dialogue.ofExcept, bind_done, bind_done]
      refine congrArg (Dialogue.bind _) (funext fun b' => stepsWith_eq_of_nested ?_)
      intro step hstep r hr
      have hstep := hreached n hn step hstep
      exact ih ⟨_, step, r, hstep, hr, rfl⟩
        (fun n' hn' _ hmem => .ofTemplate hstep hr hn' hmem) (depth + 1)

theorem steps_eq_of_agree {l : List Step}
    (hreached : ∀ step ∈ l, Reached s library entry p entry.directory step) :
    steps s library (.root entry.directory) l = steps s library' (.root entry.directory) l := by
  refine stepsWith_eq_of_nested fun step hstep r hr => ?_
  have hstep := hreached step hstep
  exact templateFrom_eq_of_agree hagree ⟨_, step, r, hstep, hr, rfl⟩
    (fun n hn _ hmem => .ofTemplate hstep hr hn hmem) _ _

theorem jobs_eq_of_agree {js : List Job} (hjs : ∀ j ∈ js, j ∈ p.jobs) :
    jobs s library entry.directory js = jobs s library' entry.directory js := by
  induction js with
  | nil => rfl
  | cons j js ih =>
    rw [jobs_cons, jobs_cons, ih fun j' hj' => hjs j' (List.mem_cons_of_mem _ hj')]
    split_ifs with hdeclares
    · have hj := hjs j List.mem_cons_self
      rw [steps_eq_of_agree hagree fun step hstep => .ofJob hj hdeclares hstep]
    · rfl

/-- The expansion of a pipeline is the same with all files that agree on the templates to which
references lead. -/
theorem pipeline_eq_of_agree :
    pipeline s library p entry.directory = pipeline s library' p entry.directory :=
  jobs_eq_of_agree hagree fun _ hj => hj

end Expansion

variable {σ : Type} [Prompting σ]

/-- What is built is the same with all files that lead to the same pipeline and agree on the
templates to which its references lead. -/
theorem buildScript_eq_of_load {s : Settings} {library library' : Library} {entry : Path}
    (hload : Pipeline.load library entry = Pipeline.load library' entry)
    (hagree : ∀ p path, Pipeline.load library entry = .ok p →
      IsRequested s library entry p path → library path = library' path) (prompter : σ) :
    buildScript s library entry prompter = buildScript s library' entry prompter := by
  rw [buildScript, buildScript, ← hload]
  cases hp : Pipeline.load library entry with
  | error e => rfl
  | ok p =>
    have hexpansion : expandPipeline s library p entry.directory =
        expandPipeline s library' p entry.directory := by
      rw [expandPipeline_eq_select, expandPipeline_eq_select,
        Expansion.pipeline_eq_of_agree fun path hpath => hagree p path hp hpath]
    simp only [hexpansion]

/-- What is built is the same with all files that agree on what is read. -/
theorem buildScript_eq_of_agree {s : Settings} {library library' : Library} {entry : Path}
    (hagree : ∀ path, Footprint s library entry path → library path = library' path)
    (prompter : σ) :
    buildScript s library entry prompter = buildScript s library' entry prompter := by
  refine buildScript_eq_of_load ?_
    (fun p path hp hpath => hagree path (.inr ⟨p, hp, hpath⟩)) prompter
  rw [Pipeline.load, Pipeline.load, hagree entry (.inl rfl)]

/-- A template that is excluded has no influence. If two file systems agree on the entry definition
and on all templates to which references lead that are not excluded, the same happens in the runs
with them, and they build the same script or fail in the same way. Each template that is loaded is
one of these. A reference is excluded if there is a rule that is the same but for slashes and
backslashes, and the command of its step is handled as that of a step without a template. -/
theorem buildScript_of_agree (s : Settings) {fs fs' : FileSystem} {entry : Path}
    (hagree : ∀ path, Footprint s fs.library entry path → fs.read path = fs'.read path)
    (prompter : σ) :
    let built := buildScript s fs.library entry prompter
    built = buildScript s fs'.library entry prompter ∧
      (∀ path depth, .acted (.load path depth) ∈ built.events →
        ∃ p, Pipeline.load fs.library entry = .ok p ∧ IsRequested s fs.library entry p path) ∧
      (∀ n written, (Node.get? n "template").bind Node.text? = some written →
        ((Step.ofNode n).reference? s = none ↔
          ∃ rule ∈ s.exclusions.templates, SameButSlashes rule written)) ∧
      ∀ step : Step, step.reference? s = none → ∀ scope rest,
        Expansion.steps s fs.library scope (step :: rest) =
          (step.command.elim (.done ()) (Expansion.command s scope.bindings)).bind fun _ =>
            Expansion.steps s fs.library scope rest := by
  intro built
  refine ⟨?_, fun path depth hmem => ?_, fun n written hn => ?_, fun step hstep scope rest => ?_⟩
  · refine buildScript_eq_of_agree (fun path hpath => ?_) prompter
    rw [FileSystem.library, FileSystem.library, hagree path hpath]
  · cases hload : Pipeline.load fs.library entry with
    | error e => simp [built, buildScript, hload] at hmem
    | ok p =>
      obtain ⟨-, hevents, -⟩ := buildScript_of_load (s := s) hload prompter
      obtain ⟨hloads, -⟩ := expandPipeline_hasOrigin s fs.library entry p prompter
      rw [← hevents] at hloads
      exact ⟨p, rfl, hloads path depth hmem⟩
  · exact Step.reference?_ofNode_eq_none_iff s hn
  · rw [Expansion.steps, Expansion.stepsWith, Expansion.elim_template, hstep]
    rfl

/-- A pipeline with a template, and a reference that is written with a backslash beside a command;
`more` are the files beside them. -/
def excludingFiles (more : List (Location × String)) : FileSystem :=
  .ofFiles
    ([(["p"], "jobs:\n- steps:\n  - template: t\n  - template: x\\y\n    script: make\n"),
      (["t"], "steps:\n- script: lint\n")] ++ more)

/-- The steps that an expansion comes to when `x/y` is excluded. -/
def excludingPlaces : List (Path × Step) :=
  [(⟨"/"⟩, ⟨some ⟨"t", []⟩, none⟩), (⟨"/"⟩, ⟨some ⟨"x/y", []⟩, some ⟨none, none, "make"⟩⟩),
    (⟨"/"⟩, ⟨none, some ⟨none, none, "lint"⟩⟩)]

/-- The pipeline in `excludingFiles`. -/
def excludingPipeline : Pipeline :=
  ⟨[⟨unnamedJob, [⟨some ⟨"t", []⟩, none⟩, ⟨some ⟨"x/y", []⟩, some ⟨none, none, "make"⟩⟩], true⟩]⟩

/-- A malformed template that is excluded, with slashes of the other kind, might as well be
missing. -/
theorem buildScript_of_agree_excluding :
    let s : Settings := { exclusions := ⟨[], ["x/y"]⟩ }
    let fs := excludingFiles [(["x", "y"], "steps: [")]
    let fs' := excludingFiles []
    fs.read ⟨"/x/y"⟩ = .ok "steps: [" ∧ fs'.read ⟨"/x/y"⟩ = .error .notFound ∧
      (∀ path, Footprint s fs.library ⟨"/p"⟩ path → fs.read path = fs'.read path) ∧
      (buildScript s fs.library ⟨"/p"⟩ (⟨""⟩ : Unattended)).result =
        .ok (some ⟨{}, ".", [.job unnamedJob, .command ⟨unnamedCommand, "lint"⟩,
          .command ⟨unnamedCommand, "make"⟩]⟩) := by
  intro s fs fs'
  have hagree (path : Path) (hpath : Footprint s fs.library ⟨"/p"⟩ path) :
      fs.read path = fs'.read path := by
    rcases hpath with rfl | ⟨p, hp, directory, step, r, hreached, hr, rfl⟩
    · decide +kernel
    · have hload : Pipeline.load fs.library ⟨"/p"⟩ = .ok excludingPipeline := by decide +kernel
      obtain rfl := Except.ok.inj (hload.symm.trans hp)
      have hwithin :
          suppliesWithin s fs.library ⟨"/p"⟩ excludingPipeline excludingPlaces = true := by
        decide +kernel
      have hmem := hreached.mem_of_suppliesWithin hwithin
      simp only [excludingPlaces, List.mem_cons, List.not_mem_nil, or_false, Prod.mk.injEq] at hmem
      obtain ⟨rfl, rfl⟩ | ⟨rfl, rfl⟩ | ⟨rfl, rfl⟩ := hmem
      · have hleads : (⟨some ⟨"t", []⟩, none⟩ : Step).reference? s = some ⟨"t", []⟩ := by
          decide +kernel
        obtain rfl := Option.some.inj (hleads.symm.trans hr)
        decide +kernel
      · have hexcluded : (⟨some ⟨"x/y", []⟩, some ⟨none, none, "make"⟩⟩ : Step).reference? s =
            none := by
          decide +kernel
        rw [hexcluded] at hr
        cases hr
      · cases hr
  refine ⟨by decide +kernel, by decide +kernel, hagree, ?_⟩
  obtain ⟨hsame, -⟩ := buildScript_of_agree s hagree (⟨""⟩ : Unattended)
  rw [hsame]
  decide +kernel

end PipelineScript
