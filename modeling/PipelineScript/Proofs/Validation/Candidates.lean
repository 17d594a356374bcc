import PipelineScript.Proofs.Prompter.Scripted
import PipelineScript.Proofs.Validation.Rounds

/-!
# The candidates of a check

With a list of answers, what a check considers is known beforehand: the path that it is given and
the texts among the answers up to the first choice. The check ends with the first of these
candidates that can be used or cannot be made absolute. If there is none, it ends with the choice
behind them, or the answers have run out.
-/

namespace PipelineScript.Validation

variable {fs : FileSystem}

/-- What is considered: a path, and then each text that is answered until there is a choice, all of
them made absolute. -/
def candidates (fs : FileSystem) (p : Path) : List Response → List (Except Failure Path)
  | [] => [absolute fs p]
  | .choice _ :: _ => [absolute fs p]
  | .text next :: rs => absolute fs p :: candidates fs ⟨next⟩ rs

theorem exists_candidates_eq (fs : FileSystem) (p : Path) (rs : List Response) :
    ∃ later, candidates fs p rs = absolute fs p :: later := by
  rcases rs with _ | ⟨_ | _, rs⟩ <;> exact ⟨_, rfl⟩

/-- A check goes no further than this candidate: it is a path that can be used, or it is none. -/
def settles (usable : Path → Bool) : Except Failure Path → Bool
  | .ok c => usable c
  | .error _ => true

/-- A check with a list of answers comes to its result by way of the candidates. -/
structure FindsFirst (usable : Path → Bool) (question : Path → Question)
    (candidates : List (Except Failure Path)) (s : Scripted) (r : Result Scripted) : Prop where
  /-- A path comes out if and only if it is the first candidate that settles the check. -/
  found (c : Path) : r.1 = .ok (some c) ↔ candidates.find? (settles usable) = some (.ok c)
  /-- The check is quit if and only if a choice is answered and no candidate settles the check. -/
  quit : r.1 = .ok none ↔
    candidates.find? (settles usable) = none ∧ ∃ choice, .choice choice ∈ s.responses
  /-- The check fails if and only if there is a candidate without an absolute path before any that
  can be used, or the answers run out. -/
  failed (f : Failure) : r.1 = .error f ↔
    candidates.find? (settles usable) = some (.error f) ∨
      candidates.find? (settles usable) = none ∧ (∀ choice, .choice choice ∉ s.responses) ∧
        f = .noReplacement .closed
  /-- One question is asked about each candidate before the one that settles the check, and one
  answer is used up by each question. -/
  asked : ∃ earlier : List Path,
    candidates.takeWhile (fun x => !settles usable x) = earlier.map .ok ∧
      r.2.asked = s.asked ++ earlier.map question ∧
      r.2.responses = s.responses.drop earlier.length
  /-- The notice of the end is shown once if the check is quit, and no notice otherwise. -/
  notices : (r.1 = .ok none → r.2.notices = s.notices ++ ["Terminating script generation."]) ∧
    (r.1 ≠ .ok none → r.2.notices = s.notices)

namespace FindsFirst

variable {usable : Path → Bool} {question : Path → Question} {later : List (Except Failure Path)}
  {s : Scripted} {r : Result Scripted} {c : Path}

/-- A candidate that settles the check is what comes out of it. -/
theorem of_settles {x : Except Failure Path} (h : settles usable x = true) :
    FindsFirst usable question (x :: later) s (x.map some, s) where
  found c := by
    rw [List.find?_cons_of_pos h]
    cases x <;> simp [Except.map]
  quit := by
    rw [List.find?_cons_of_pos h]
    cases x <;> simp [Except.map]
  failed f := by
    rw [List.find?_cons_of_pos h]
    cases x <;> simp [Except.map]
  asked := ⟨[], by simp [h], (List.append_nil _).symm, rfl⟩
  notices := by
    refine ⟨fun hquit => ?_, fun _ => rfl⟩
    cases x <;> cases hquit

/-- Behind a candidate that cannot be used the check goes on with the next text. -/
theorem next {text : String} {rs : List Response} (h : usable c = false)
    (hresponses : s.responses = .text text :: rs)
    (hnext : FindsFirst usable question later ⟨rs, s.asked ++ [question c], s.notices⟩ r) :
    FindsFirst usable question (.ok c :: later) s r := by
  have hfind : (Except.ok c :: later).find? (settles usable) = later.find? (settles usable) :=
    List.find?_cons_of_neg (by simp [settles, h])
  have hchoice (choice : Choice) : .choice choice ∈ s.responses ↔ .choice choice ∈ rs := by
    simp [hresponses]
  obtain ⟨earlier, htake, hasked, hdrop⟩ := hnext.asked
  constructor
  case found => simpa only [hfind] using hnext.found
  case quit => simpa only [hfind, hchoice] using hnext.quit
  case failed => simpa only [hfind, hchoice] using hnext.failed
  case asked =>
    refine ⟨c :: earlier, ?_, ?_, ?_⟩
    · rw [List.takeWhile_cons_of_pos (by simp [settles, h]), htake, List.map_cons]
    · rw [hasked, List.map_cons, List.append_assoc, List.singleton_append]
    · rw [hdrop, hresponses, List.length_cons, List.drop_succ_cons]
  case notices => exact hnext.notices

/-- Behind a candidate that cannot be used a choice quits the check. -/
theorem of_choice {choice : Choice} {rs : List Response} (h : usable c = false)
    (hresponses : s.responses = .choice choice :: rs) :
    FindsFirst usable question [.ok c] s
      (Validation.quit ⟨rs, s.asked ++ [question c], s.notices⟩) := by
  have hfind : [Except.ok c].find? (settles usable) = none := by simp [settles, h]
  have hmem : .choice choice ∈ s.responses := hresponses ▸ List.mem_cons_self
  constructor
  case found => simp [Validation.quit, hfind]
  case quit => exact ⟨fun _ => ⟨hfind, choice, hmem⟩, fun _ => rfl⟩
  case failed =>
    intro f
    constructor
    · intro hfails
      cases hfails
    · rintro (hunresolved | ⟨-, hnone, -⟩)
      · rw [hfind] at hunresolved
        cases hunresolved
      · exact absurd hmem (hnone choice)
  case asked => exact ⟨[c], by simp [settles, h], rfl, by rw [hresponses]; rfl⟩
  case notices => exact ⟨fun _ => rfl, fun h => absurd rfl h⟩

/-- Behind a candidate that cannot be used the check fails if there are no more answers. -/
theorem of_closed (h : usable c = false) (hresponses : s.responses = []) :
    FindsFirst usable question [.ok c] s
      (.error (.noReplacement .closed), ⟨[], s.asked ++ [question c], s.notices⟩) := by
  have hfind : [Except.ok c].find? (settles usable) = none := by simp [settles, h]
  constructor
  case found => simp [hfind]
  case quit => simp [hresponses]
  case failed => simp [hfind, hresponses, eq_comm]
  case asked => exact ⟨[c], by simp [settles, h], rfl, by rw [hresponses]; rfl⟩
  case notices =>
    refine ⟨fun hquit => ?_, fun _ => rfl⟩
    cases hquit

end FindsFirst

section Round

variable {σ : Type} [Prompter σ] {need : Requirement} {p c : Path} {s : σ}

theorem check_of_settles (h : settles need.holds (absolute fs p) = true) :
    check fs need p s = ((absolute fs p).map some, s) := by
  rw [check]
  cases hp : absolute fs p with
  | error f => rfl
  | ok c =>
    rw [hp] at h
    exact search_of_holds h s

theorem check_of_not_holds (hp : absolute fs p = .ok c) (h : need.holds c = false) :
    check fs need p s =
      match Prompting.ask (pathQuestion (need.complaint c) need.hint) s with
      | (.error e, s') => (.error (.noReplacement e), s')
      | (.ok (.choice _), s') => quit s'
      | (.ok (.text next), s') => check fs need ⟨next⟩ s' := by
  have hcheck : check fs need p s = search fs need c s := by rw [check, hp]
  exact hcheck.trans (search_of_not_holds (Bool.eq_false_iff.1 h) s)

end Round

/-- With answers given in advance, a check goes through its candidates. -/
theorem findsFirst_check (fs : FileSystem) (need : Requirement) (p : Path) (s : Scripted) :
    FindsFirst need.holds (fun c => pathQuestion (need.complaint c) need.hint)
      (candidates fs p s.responses) s (check fs need p s) := by
  by_cases hsettles : settles need.holds (absolute fs p) = true
  · obtain ⟨later, hcandidates⟩ := exists_candidates_eq fs p s.responses
    rw [hcandidates, check_of_settles hsettles]
    exact .of_settles hsettles
  · obtain ⟨c, hp, hc⟩ : ∃ c, absolute fs p = .ok c ∧ need.holds c = false := by
      cases hp : absolute fs p with
      | error f => exact absurd (by rw [hp]; rfl) hsettles
      | ok c => exact ⟨c, rfl, by rw [hp] at hsettles; exact Bool.eq_false_iff.2 hsettles⟩
    rw [check_of_not_holds hp hc, Scripted.ask_eq]
    match hresponses : s.responses with
    | [] =>
      rw [candidates, hp]
      exact .of_closed hc hresponses
    | .choice choice :: rs =>
      rw [candidates, hp]
      exact .of_choice hc hresponses
    | .text text :: rs =>
      rw [candidates, hp]
      exact .next hc hresponses (findsFirst_check fs need ⟨text⟩ ⟨rs, _, s.notices⟩)
termination_by s.responses.length
decreasing_by rw [hresponses]; exact Nat.lt_succ_self _

/-- A check with answers given in advance ends with the first path that can be used among the path
that it is given and the texts that are answered before any choice. The entry definition must be a
file and the working directory a directory. -/
theorem checks_findFirst (fs : FileSystem) (p : Path) (s : Scripted) :
    FindsFirst fs.isFile
        (fun c => pathQuestion s!"The file {c.text} does not exist." "input path")
        (candidates fs p s.responses) s (checkInput fs p s) ∧
      FindsFirst fs.isDirectory
        (fun c => pathQuestion s!"The directory {c.text} does not exist." "working directory")
        (candidates fs p s.responses) s (checkDirectory fs p s) :=
  ⟨findsFirst_check fs (inputRequirement fs) p s, findsFirst_check fs (directoryRequirement fs) p s⟩

end PipelineScript.Validation
