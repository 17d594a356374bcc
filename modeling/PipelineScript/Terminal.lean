import PipelineScript.Prompter
import PipelineScript.Text.White

/-!
# Terminals

A terminal asks by lines: it shows the question, and asks again until a line is an answer.
-/

namespace PipelineScript

/-- A terminal: the bytes that have not been read, the text that has been written, and whether it
shows colours. -/
structure Terminal where
  input : List UInt8
  output : String
  colours : Bool
  deriving DecidableEq, Repr, Inhabited

namespace Terminal

/-- The warning behind a line that is no answer. -/
def invalidResponse : String := "Invalid response! Please enter a valid response:"

/-- A text as the terminal shows it. -/
def paint (t : Terminal) (text : String) (colour : Colour) : String :=
  if t.colours then colour.paint text else text

/-- Writes a text. -/
def write (t : Terminal) (text : String) : Terminal :=
  { t with output := t.output ++ text }

/-- Writes a line in a colour. -/
def writeLine (t : Terminal) (text : String) (colour : Colour) : Terminal :=
  t.write (t.paint text colour ++ "\n")

/-- The bytes of the first line, with its line feed, and those behind it. -/
def splitLine : List UInt8 → List UInt8 × List UInt8
  | [] => ([], [])
  | b :: bs =>
    if b = 10 then ([b], bs)
    else
      let (line, rest) := splitLine bs
      (b :: line, rest)

/-- A line and what is behind it make up the bytes. -/
theorem splitLine_append (bs : List UInt8) : (splitLine bs).1 ++ (splitLine bs).2 = bs := by
  induction bs with
  | nil => rfl
  | cons b bs ih =>
    by_cases h : b = 10
    · simp [splitLine, h]
    · simp [splitLine, h, ih]

/-- The first line of some bytes holds one of them at least. -/
theorem splitLine_cons_ne_nil (b : UInt8) (bs : List UInt8) : (splitLine (b :: bs)).1 ≠ [] := by
  by_cases h : b = 10 <;> simp [splitLine, h]

/-- Fewer bytes are left behind the first line. -/
theorem length_splitLine_lt {bs : List UInt8} (h : bs ≠ []) :
    (splitLine bs).2.length < bs.length := by
  cases bs with
  | nil => exact absurd rfl h
  | cons b bs =>
    have h1 := congrArg List.length (splitLine_append (b :: bs))
    have h2 := List.length_pos_iff.2 (splitLine_cons_ne_nil b bs)
    rw [List.length_append] at h1
    omega

/-- Asks for lines until one is an answer; `input` is what has not been read, and `output` what has
been written. -/
def readAnswer (q : Question) (t : Terminal) : Except PromptError Response × Terminal :=
  let t := t.write q.answerLine
  if _h : t.input = [] then (.error .closed, t)
  else
    let line := (splitLine t.input).1
    let behind := { t with input := (splitLine t.input).2 }
    match String.fromUTF8? ⟨line.toArray⟩ with
    | none => (.error .notText, behind)
    | some line =>
      match q.interpret (Text.trim line) with
      | some r => (.ok r, behind)
      | none => readAnswer q (behind.writeLine invalidResponse .red)
termination_by t.input.length
decreasing_by exact length_splitLine_lt _h

/-- An answer leaves fewer bytes unread. -/
theorem length_readAnswer_lt {q : Question} {t t' : Terminal} {r : Response}
    (h : readAnswer q t = (.ok r, t')) : t'.input.length < t.input.length := by
  fun_induction readAnswer q t with
  | case1 => simp at h
  | case2 => simp at h
  | case3 t _ hne _ behind =>
    simp only [Prod.mk.injEq] at h
    rw [← h.2]
    exact length_splitLine_lt hne
  | case4 t _ hne _ behind _ _ _ ih =>
    exact Nat.lt_trans (ih h) (length_splitLine_lt hne)

/-- Shows a question and asks for its answer. -/
def ask (q : Question) (t : Terminal) : Except PromptError Response × Terminal :=
  let t := match q.context with
    | some context => t.writeLine context q.colour
    | none => t
  readAnswer q (t.writeLine q.text q.colour)

/-- Writing does not read. -/
theorem input_writeLine (t : Terminal) (text : String) (colour : Colour) :
    (t.writeLine text colour).input = t.input := rfl

end Terminal

instance : Prompter Terminal where
  ask := Terminal.ask
  notify message colour t := t.writeLine message colour
  supply t := t.input.length
  supply_lt {q t r t'} h := by
    unfold Terminal.ask at h
    have := Terminal.length_readAnswer_lt h
    cases hc : q.context <;> simp_all [Terminal.input_writeLine]

end PipelineScript
