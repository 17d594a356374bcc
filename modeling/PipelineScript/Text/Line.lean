/-!
# Lines

A line ends at a line feed, or at a carriage return with a line feed behind it.  A carriage return
that stands alone belongs to its line, and the empty text behind the last line end is no line.
-/

namespace PipelineScript.Text

/-- The lines of `cs`, given the characters of the current line in reverse order. -/
private def linesFrom : List Char → List Char → List (List Char)
  | [], [] => []
  | [], current => [current.reverse]
  | '\r' :: '\n' :: cs, current => current.reverse :: linesFrom cs []
  | '\n' :: cs, current => current.reverse :: linesFrom cs []
  | c :: cs, current => linesFrom cs (c :: current)

/-- The lines of a text, without their line ends. -/
def lines (cs : List Char) : List (List Char) :=
  linesFrom cs []

private theorem lineFeed_not_mem_linesFrom (cs current : List Char) (h : '\n' ∉ current) :
    ∀ l ∈ linesFrom cs current, '\n' ∉ l := by
  induction cs, current using linesFrom.induct with
  | case1 => simp [linesFrom]
  | case2 current hne =>
    rw [linesFrom]
    · simpa using h
    · simpa using hne
  | case3 current cs ih =>
    rw [linesFrom]
    simpa [h] using ih
  | case4 current cs ih =>
    rw [linesFrom]
    simpa [h] using ih
  | case5 current c cs hreturn hfeed ih =>
    rw [linesFrom]
    · exact ih (by simpa [Ne.symm hfeed] using h)
    · exact hreturn
    · exact hfeed

/-- No line holds a line feed. -/
theorem lineFeed_not_mem_lines (cs : List Char) : ∀ l ∈ lines cs, '\n' ∉ l :=
  lineFeed_not_mem_linesFrom cs [] List.not_mem_nil

/-- The lines of a text, joined by single spaces. -/
def singleLine (s : String) : String :=
  String.ofList ([' '].intercalate (lines s.toList))

/-- A text on a single line holds no line feed. -/
theorem lineFeed_not_mem_singleLine (s : String) : '\n' ∉ (singleLine s).toList := by
  have hlines := lineFeed_not_mem_lines s.toList
  rw [singleLine, String.toList_ofList]
  generalize lines s.toList = ls at hlines
  induction ls with
  | nil => simp
  | cons l ls ih =>
    obtain ⟨hl, hls⟩ := List.forall_mem_cons.1 hlines
    cases ls with
    | nil => simpa using hl
    | cons l' ls =>
      rw [List.intercalate_cons_cons]
      simpa [hl] using ih hls

end PipelineScript.Text
