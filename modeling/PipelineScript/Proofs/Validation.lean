import PipelineScript.Proofs.Validation.Rounds

/-!
# Consent to replace a file

If the path of an existing file comes out of the check of the output without force, consent to
replace that very file is on the record, however many other paths were declined before.
-/

namespace PipelineScript.Validation

variable {σ : Type} [Prompter σ] {fs : FileSystem}

/-- A path that comes out of the search for an output leads to nothing, or it has been consented to
replace what it leads to. -/
theorem mem_record_of_searchOutput {candidate p : Path} {s s' : Recorder σ}
    (h : searchOutput fs candidate s = (.ok (some p), s')) (hp : fs.pathExists p = true) :
    (overwriteQuestion p, .ok (.choice .yes)) ∈ s'.record := by
  cases hthere : fs.pathExists candidate with
  | false =>
    rw [searchOutput_of_not_pathExists hthere] at h
    cases h
    rw [hthere] at hp
    cases hp
  | true =>
    rw [searchOutput_of_pathExists hthere] at h
    rcases hask : Prompting.ask (overwriteQuestion candidate) s with
      ⟨_ | (_ | _ | _ | _ | _) | _, s₁⟩ <;> simp only [hask] at h
    case ok.choice.yes =>
      cases h
      rw [Recorder.record_of_ask hask]
      exact List.mem_append_right _ (List.mem_singleton_self _)
    case ok.choice.no =>
      rcases hask' : Prompting.ask replacementQuestion s₁ with ⟨_ | _ | next, s₂⟩ <;>
        simp only [hask'] at h
      case ok.text =>
        rw [checkOutput] at h
        cases habsolute : absolute fs ⟨next⟩ with
        | error f =>
          rw [habsolute] at h
          cases h
        | ok candidate' =>
          rw [habsolute] at h
          exact mem_record_of_searchOutput h hp
      all_goals cases h
    all_goals cases h
termination_by Prompter.supply s
decreasing_by exact Nat.lt_trans (Prompter.supply_lt hask') (Prompter.supply_lt hask)

theorem mem_record_of_checkOutput {p q : Path} {s s' : Recorder σ}
    (h : checkOutput fs false p s = (.ok (some q), s')) (hq : fs.pathExists q = true) :
    (overwriteQuestion q, .ok (.choice .yes)) ∈ s'.record := by
  rw [checkOutput] at h
  cases habsolute : absolute fs p with
  | error f =>
    rw [habsolute] at h
    cases h
  | ok candidate =>
    rw [habsolute] at h
    exact mem_record_of_searchOutput h hq

end PipelineScript.Validation
