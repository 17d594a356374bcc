import Mathlib.Data.List.Forall2
import PipelineScript.Proofs.Bindings
import PipelineScript.Proofs.Expansion.Footprint

/-!
# Rearranged definitions

A definition is read by the keys of its mappings. Where the keys of a mapping differ its entries may
stand in any order, and among them there may be others under keys that are not read. This holds of
the root of a pipeline, of its jobs, of their steps and of the inputs of a step, and as to the order
also of the parameters at a reference. All of these may be rearranged at once.

The items of a sequence keep their order. So do the entries of a mapping that is written out, such
as a script that is no text.
-/

namespace PipelineScript

namespace Node

/-! ### Rearranged nodes -/

/-- Nothing differs, or the entries of a mapping stand in another order. -/
inductive Reordered : Node → Node → Prop
  | same (n : Node) : Reordered n n
  | entries {es es' : List (String × Node)} (hkeys : (es.map Prod.fst).Nodup)
      (horder : es.Perm es') : Reordered (mapping es) (mapping es')

/-- Nothing differs, or the items of a sequence differ one by one as `R` says. -/
inductive Itemwise (R : Node → Node → Prop) : Node → Node → Prop
  | same (n : Node) : Itemwise R n n
  | items {ns ns' : List Node} (h : List.Forall₂ R ns ns') :
      Itemwise R (sequence ns) (sequence ns')

/-- The keys that are read in a mapping, and how their values may differ. -/
abbrev Fields := List (String × (Node → Node → Prop))

/-- The key stays, and its value stays unless it is one of `fields`, which differ as those say. -/
def Fields.Relates (fields : Fields) (e e' : String × Node) : Prop :=
  e.1 = e'.1 ∧ ((fields.lookup e.1).getD Eq) e.2 e'.2

/-- Nothing differs, or the values of `fields` in a mapping differ as those say, and entries that
are none of `fields` are added, at any places in any order of the whole. -/
inductive Fieldwise (fields : Fields) : Node → Node → Prop
  | same (n : Node) : Fieldwise fields n n
  | entries {es changed added es' : List (String × Node)} (hkeys : (es.map Prod.fst).Nodup)
      (hvalues : List.Forall₂ fields.Relates es changed)
      (hadded : ∀ e ∈ added, e.1 ∉ fields.map Prod.fst)
      (horder : (changed ++ added).Perm es') : Fieldwise fields (mapping es) (mapping es')

/-- The inputs of a step are rearranged. -/
def RearrangedInputs : Node → Node → Prop :=
  Fieldwise [("script", Eq)]

/-- A step is rearranged, perhaps with its parameters and inputs. -/
def RearrangedStep : Node → Node → Prop :=
  Fieldwise [("template", Eq), ("parameters", Reordered), ("inputs", RearrangedInputs),
    ("script", Eq), ("displayName", Eq), ("task", Eq)]

/-- A job is rearranged, perhaps with its steps. -/
def RearrangedJob : Node → Node → Prop :=
  Fieldwise [("job", Eq), ("deployment", Eq), ("steps", Itemwise RearrangedStep)]

/-- The root of a pipeline is rearranged, perhaps with its jobs. -/
def RearrangedPipeline : Node → Node → Prop :=
  Fieldwise [("jobs", Itemwise RearrangedJob)]

/-! ### Looking up -/

section Fieldwise

variable {fields : Fields} {key : String} {R : Node → Node → Prop} {n n' : Node}

theorem keys_eq_of_relates {es es' : List (String × Node)}
    (h : List.Forall₂ fields.Relates es es') : es.map Prod.fst = es'.map Prod.fst := by
  induction h with
  | nil => rfl
  | cons he _ ih => rw [List.map_cons, List.map_cons, he.1, ih]

theorem rel_lookup_of_relates (hkey : fields.lookup key = some R) {es es' : List (String × Node)}
    (h : List.Forall₂ fields.Relates es es') :
    Option.Rel R (es.lookup key) (es'.lookup key) := by
  induction h with
  | nil => exact .none
  | @cons e e' es es' he _ ih =>
    obtain ⟨k, m⟩ := e
    obtain ⟨k', m'⟩ := e'
    obtain ⟨rfl, hvalue⟩ := he
    rw [List.lookup_cons, List.lookup_cons]
    cases hk : key == k with
    | false => exact ih
    | true =>
      obtain rfl : key = k := beq_iff_eq.1 hk
      rw [hkey] at hvalue
      exact .some hvalue

/-- What is found under a field differs as the field may. -/
theorem Fieldwise.rel_get? (h : Fieldwise fields n n') (hkey : fields.lookup key = some R)
    (hrefl : ∀ m, R m m) : Option.Rel R (n.get? key) (n'.get? key) := by
  cases h with
  | same =>
    cases n.get? key with
    | none => exact .none
    | some m => exact .some (hrefl m)
  | @entries es changed added es' hkeys hvalues hadded horder =>
    have hchanged : (changed.map Prod.fst).Nodup := keys_eq_of_relates hvalues ▸ hkeys
    have hfield : key ∈ fields.map Prod.fst := by
      obtain ⟨before, behind, hsplit, -⟩ := List.lookup_eq_some_iff.1 hkey
      exact List.mem_map_of_mem (hsplit ▸ List.mem_append_right before List.mem_cons_self)
    -- An entry under the key is one of those that were there.
    have hmem (m : Node) : (key, m) ∈ es' ↔ (key, m) ∈ changed := by
      rw [← horder.mem_iff, List.mem_append]
      exact or_iff_left fun hm => hadded _ hm hfield
    have hget (m : Node) : (mapping es').get? key = some m ↔
        (mapping changed).get? key = some m := by
      have hunique (m m' : Node) (hm : (key, m) ∈ changed) (hm' : (key, m') ∈ changed) : m = m' :=
        congrArg Prod.snd (List.inj_on_of_nodup_map hchanged hm hm' rfl)
      rw [get?_eq_some_iff_mem hunique, get?_eq_some_iff_mem, hmem]
      intro m m' hm hm'
      exact hunique m m' ((hmem m).1 hm) ((hmem m').1 hm')
    rw [Option.ext hget]
    exact rel_lookup_of_relates hkey hvalues

/-- What is read of a field stays if it stays for all values that the field may have instead. -/
theorem Fieldwise.map_get? {α : Type} {f : Node → α} (h : Fieldwise fields n n')
    (hkey : fields.lookup key = some R) (hrefl : ∀ m, R m m)
    (hf : ∀ m m', R m m' → f m = f m') : (n.get? key).map f = (n'.get? key).map f := by
  have hrel := h.rel_get? hkey hrefl
  generalize n.get? key = o at hrel
  generalize n'.get? key = o' at hrel
  cases hrel with
  | none => rfl
  | some hm => rw [Option.map_some, Option.map_some, hf _ _ hm]

/-- A field whose value may not differ is found as before. -/
theorem Fieldwise.get?_eq (h : Fieldwise fields n n') (hkey : fields.lookup key = some Eq) :
    n.get? key = n'.get? key := by
  have hmap := h.map_get? hkey (fun _ => rfl) fun m m' (hm : m = m') => congrArg id hm
  rwa [Option.map_id_fun, id, id] at hmap

end Fieldwise

/-! ### Reading -/

theorem Reordered.bindings_eq {n n' : Node} (h : n.Reordered n') :
    Bindings.ofNode n = Bindings.ofNode n' := by
  cases h with
  | same => rfl
  | @entries es es' hkeys horder =>
    have hnames : ((es.map fun e => (e.1, e.2.display)).map Prod.fst).Nodup := by
      rw [List.map_map]
      exact hkeys
    exact Bindings.ofEntries_eq_of_perm hnames (horder.map _)

/-- What is read of the items of a sequence stays if it stays for each of them. -/
theorem Itemwise.map_items {α : Type} {R : Node → Node → Prop} {n n' : Node} {f : Node → α}
    (h : Itemwise R n n') (hf : ∀ m m', R m m' → f m = f m') :
    (n.items?.getD []).map f = (n'.items?.getD []).map f := by
  cases h with
  | same => rfl
  | items h =>
    rw [items?, items?, Option.getD_some, Option.getD_some]
    induction h with
    | nil => rfl
    | cons hm _ ih => rw [List.map_cons, List.map_cons, hf _ _ hm, ih]

theorem RearrangedStep.step_eq {n n' : Node} (h : n.RearrangedStep n') :
    Step.ofNode n = Step.ofNode n' := by
  have htemplate : n.get? "template" = n'.get? "template" := h.get?_eq rfl
  have hparameters : (n.get? "parameters").map Bindings.ofNode =
      (n'.get? "parameters").map Bindings.ofNode :=
    h.map_get? rfl .same fun _ _ hm => hm.bindings_eq
  have hinputs : (n.get? "inputs").map (·.get? "script") =
      (n'.get? "inputs").map (·.get? "script") :=
    h.map_get? rfl .same fun _ _ hm => hm.get?_eq rfl
  have hjoin (o : Option Node) :
      o.bind (·.get? "script") = (o.map (·.get? "script")).bind id := by
    rw [Option.bind_map]
    rfl
  have hscript : n.get? "script" = n'.get? "script" := h.get?_eq rfl
  have hname : n.get? "displayName" = n'.get? "displayName" := h.get?_eq rfl
  have htask : n.get? "task" = n'.get? "task" := h.get?_eq rfl
  simp only [Step.ofNode, Step.templateOfNode, Step.scriptOfNode, htemplate, hparameters, hjoin,
    hinputs, hscript, hname, htask]

theorem RearrangedJob.job_eq {n n' : Node} (h : n.RearrangedJob n') :
    Job.ofNode n = Job.ofNode n' := by
  have hjob : n.get? "job" = n'.get? "job" := h.get?_eq rfl
  have hdeployment : n.get? "deployment" = n'.get? "deployment" := h.get?_eq rfl
  have hsteps : (n.get? "steps").map (fun m => (m.items?.getD []).map Step.ofNode) =
      (n'.get? "steps").map fun m => (m.items?.getD []).map Step.ofNode :=
    h.map_get? rfl .same fun _ _ hm => hm.map_items fun _ _ hstep => hstep.step_eq
  have hdeclares : (n.get? "steps").isSome = (n'.get? "steps").isSome := by
    rw [← Option.isSome_map, hsteps, Option.isSome_map]
  have hlist (o : Option Node) : Step.listOfNode o =
      ((o.map fun m => (m.items?.getD []).map Step.ofNode).getD []).filter (!·.isEmpty) := by
    cases o <;> rfl
  rw [Job.ofNode, Job.ofNode, hjob, hdeployment, hlist, hlist, hsteps, hdeclares]

theorem RearrangedPipeline.pipeline_eq {n n' : Node} (h : n.RearrangedPipeline n') :
    Pipeline.ofNode? n = Pipeline.ofNode? n' :=
  h.map_get? rfl .same fun _ _ hm => congrArg Pipeline.mk (hm.map_items fun _ _ hjob => hjob.job_eq)

end Node

/-! ### Rearranged pipelines -/

variable {σ : Type} [Prompting σ]

/-- The pipeline that a node describes depends neither on the order of entries whose keys differ nor
on entries under keys that are not read. So what is built of an entry definition stays when it is
rearranged, as long as the templates to which references lead are the same. -/
theorem Pipeline.ofNode?_rearranged {n n' : Node} (h : n.RearrangedPipeline n') :
    Pipeline.ofNode? n' = Pipeline.ofNode? n ∧
      ∀ (s : Settings) (library library' : Library) (entry : Path) (prompter : σ),
        library entry = .ok n → library' entry = .ok n' →
        (∀ p path, Pipeline.ofNode? n = some p → IsRequested s library entry p path →
          library' path = library path) →
        buildScript s library' entry prompter = buildScript s library entry prompter := by
  refine ⟨h.pipeline_eq.symm, fun s library library' entry prompter hn hn' hagree => ?_⟩
  have hload : Pipeline.load library entry = Pipeline.load library' entry := by
    rw [Pipeline.load_eq, Pipeline.load_eq, hn, hn', Except.bind, Except.bind, h.pipeline_eq]
  refine (buildScript_eq_of_load hload (fun p path hp hpath => ?_) prompter).symm
  rw [Pipeline.load_eq, hn, Except.bind] at hp
  cases hpipeline : Pipeline.ofNode? n with
  | none =>
    rw [hpipeline] at hp
    cases hp
  | some q =>
    rw [hpipeline] at hp
    cases hp
    exact (hagree p path hpipeline hpath).symm

/-- A step that refers to a template and has a command. -/
def plainStep : Node :=
  .mapping [("template", .scalar "t"),
    ("parameters", .mapping [("x", .scalar "1"), ("y", .scalar "2")]),
    ("inputs", .mapping [("script", .scalar "make")])]

/-- The same step from behind, with entries that are not read. -/
def rearrangedStep : Node :=
  .mapping [("condition", .null),
    ("inputs", .mapping [("workingDirectory", .null), ("script", .scalar "make")]),
    ("parameters", .mapping [("y", .scalar "2"), ("x", .scalar "1")]), ("template", .scalar "t")]

/-- A job of that step. -/
def plainJob : Node :=
  .mapping [("job", .scalar "a"), ("steps", .sequence [plainStep])]

/-- The same job from behind, with an entry that is not read. -/
def rearrangedJob : Node :=
  .mapping [("pool", .null), ("steps", .sequence [rearrangedStep]), ("job", .scalar "a")]

/-- A pipeline of that job. -/
def plainDefinition : Node :=
  .mapping [("jobs", .sequence [plainJob])]

/-- The same pipeline with an entry that is not read. -/
def rearrangedDefinition : Node :=
  .mapping [("trigger", .null), ("jobs", .sequence [rearrangedJob])]

/-- The pipeline that both of them describe. -/
def rearrangedSample : Pipeline :=
  ⟨[⟨"a", [⟨some ⟨"t", [("x", "1"), ("y", "2")]⟩, some ⟨none, none, "make"⟩⟩], true⟩]⟩

/-- An entry definition beside a template. -/
def librarySample (n : Node) : Library := fun path =>
  if path = ⟨"/p"⟩ then .ok n
  else .ok (.mapping [("steps", .sequence [.mapping [("script", .scalar "lint")]])])

theorem rearrangedStep_sample : plainStep.RearrangedStep rearrangedStep := by
  have hparameters : Node.Reordered (.mapping [("x", .scalar "1"), ("y", .scalar "2")])
      (.mapping [("y", .scalar "2"), ("x", .scalar "1")]) :=
    .entries (by decide) (.swap _ _ _)
  have hinputs : Node.RearrangedInputs (.mapping [("script", .scalar "make")])
      (.mapping [("workingDirectory", .null), ("script", .scalar "make")]) :=
    @Node.Fieldwise.entries _ _ [("script", .scalar "make")] [("workingDirectory", .null)] _
      (by decide) (.cons ⟨rfl, rfl⟩ .nil) (by decide) (.swap _ _ _)
  exact @Node.Fieldwise.entries _ _
    [("template", .scalar "t"), ("parameters", .mapping [("y", .scalar "2"), ("x", .scalar "1")]),
      ("inputs", .mapping [("workingDirectory", .null), ("script", .scalar "make")])]
    [("condition", .null)] _ (by decide)
    (.cons ⟨rfl, rfl⟩ <| .cons ⟨rfl, hparameters⟩ <| .cons ⟨rfl, hinputs⟩ .nil)
    (by decide) (List.reverse_perm _).symm

theorem rearrangedJob_sample : plainJob.RearrangedJob rearrangedJob := by
  have hsteps : Node.Itemwise Node.RearrangedStep (.sequence [plainStep])
      (.sequence [rearrangedStep]) :=
    .items (.cons rearrangedStep_sample .nil)
  exact @Node.Fieldwise.entries _ _
    [("job", .scalar "a"), ("steps", .sequence [rearrangedStep])] [("pool", .null)] _ (by decide)
    (.cons ⟨rfl, rfl⟩ <| .cons ⟨rfl, hsteps⟩ .nil) (by decide) (List.reverse_perm _).symm

theorem rearrangedPipeline_sample :
    plainDefinition.RearrangedPipeline rearrangedDefinition := by
  have hjobs : Node.Itemwise Node.RearrangedJob (.sequence [plainJob])
      (.sequence [rearrangedJob]) :=
    .items (.cons rearrangedJob_sample .nil)
  exact @Node.Fieldwise.entries _ _ [("jobs", .sequence [rearrangedJob])] [("trigger", .null)] _
    (by decide) (.cons ⟨rfl, hjobs⟩ .nil) (by decide) (.swap _ _ _)

/-- The steps that an expansion of the sample comes to. -/
def rearrangedPlaces : List (Path × Step) :=
  [(⟨"/"⟩, ⟨some ⟨"t", [("x", "1"), ("y", "2")]⟩, some ⟨none, none, "make"⟩⟩),
    (⟨"/"⟩, ⟨none, some ⟨none, none, "lint"⟩⟩)]

/-- No reference in the sample leads to the entry definition. -/
theorem ne_entry_of_isRequested_sample {path : Path}
    (h : IsRequested {} (librarySample plainDefinition) ⟨"/p"⟩ rearrangedSample path) :
    path ≠ ⟨"/p"⟩ := by
  obtain ⟨directory, step, r, hreached, hr, rfl⟩ := h
  have hwithin : suppliesWithin {} (librarySample plainDefinition) ⟨"/p"⟩ rearrangedSample
      rearrangedPlaces = true := by
    decide +kernel
  have hmem := hreached.mem_of_suppliesWithin hwithin
  have hall : rearrangedPlaces.all (fun place => (place.2.reference? {}).all fun r =>
      place.1.join r.path ≠ ⟨"/p"⟩) = true := by
    decide +kernel
  have hplace := List.all_eq_true.1 hall _ hmem
  rw [hr, Option.all_some] at hplace
  exact of_decide_eq_true hplace

/-- A template and a command of a pipeline that is rearranged at all its places. -/
theorem Pipeline.ofNode?_rearranged_everywhere :
    plainDefinition.RearrangedPipeline rearrangedDefinition ∧
      Pipeline.ofNode? rearrangedDefinition = some rearrangedSample ∧
      (buildScript {} (librarySample rearrangedDefinition) ⟨"/p"⟩ (⟨""⟩ : Unattended)).result =
        .ok (some ⟨{}, ".", [.job "a", .command ⟨unnamedCommand, "lint"⟩,
          .command ⟨unnamedCommand, "make"⟩]⟩) := by
  obtain ⟨hpipeline, hbuild⟩ :=
    @Pipeline.ofNode?_rearranged Unattended _ _ _ rearrangedPipeline_sample
  have hsample : Pipeline.ofNode? plainDefinition = some rearrangedSample := by decide +kernel
  refine ⟨rearrangedPipeline_sample, hpipeline.trans hsample, ?_⟩
  rw [hbuild {} (librarySample plainDefinition) _ ⟨"/p"⟩ ⟨""⟩ rfl rfl]
  · decide +kernel
  · intro p path hp hpath
    obtain rfl := Option.some.inj (hsample.symm.trans hp)
    have hne := ne_entry_of_isRequested_sample hpath
    rw [librarySample, librarySample, if_neg hne, if_neg hne]

end PipelineScript
