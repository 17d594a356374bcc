/-!
# Literal replacement

Every occurrence of a fixed text is replaced, from the left and without overlaps.  What was put
in is not looked at again.
-/

namespace PipelineScript.Text

/-- `after? p cs` is the rest of `cs` behind `p`, if `cs` begins with `p`. -/
def after? : List Char → List Char → Option (List Char)
  | [], cs => some cs
  | _ :: _, [] => none
  | p :: ps, c :: cs => if p = c then after? ps cs else none

theorem eq_of_after? {p cs rest : List Char} (h : after? p cs = some rest) :
    cs = p ++ rest := by
  induction p generalizing cs with
  | nil => simp_all [after?]
  | cons a p ih =>
    cases cs with
    | nil => simp [after?] at h
    | cons c cs =>
      by_cases hc : a = c
      · simp only [after?, hc, if_true] at h
        simp [ih h, hc]
      · simp [after?, hc] at h

/-- The rest behind a nonempty beginning is shorter. -/
theorem length_of_after? {p cs rest : List Char} (h : after? p cs = some rest) :
    rest.length + p.length = cs.length := by
  simp [eq_of_after? h, Nat.add_comm]

/-- `replaceAll first rest value cs` is `cs` with every occurrence of the text `first :: rest`
replaced by `value`. -/
def replaceAll (first : Char) (rest value : List Char) : List Char → List Char
  | [] => []
  | c :: cs =>
    match _h : after? (first :: rest) (c :: cs) with
    | some behind => value ++ replaceAll first rest value behind
    | none => c :: replaceAll first rest value cs
termination_by cs => cs.length
decreasing_by
  · have := length_of_after? _h
    simp only [List.length_cons] at this ⊢
    omega
  · simp

end PipelineScript.Text
