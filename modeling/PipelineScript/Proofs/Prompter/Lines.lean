import PipelineScript.Proofs.Prompter.Terminal

/-!
# The lines that a terminal reads

A terminal reads its input line by line, each with the line feed at its end. A question takes the
first line that is an answer or no text. The lines in front of it are rejected one by one, each with
a warning, and the lines behind it are not touched.
-/

namespace PipelineScript.Terminal

variable {q : Question} {t : Terminal}

/-! ### Lines -/

/-- The lines of some bytes, which are cut behind each line feed. -/
def lines : List UInt8 → List (List UInt8)
  | [] => []
  | b :: bs =>
    if b = 10 then [b] :: lines bs
    else
      match lines bs with
      | [] => [[b]]
      | line :: behind => (b :: line) :: behind

/-- The first of the lines is what is read at once. -/
theorem lines_of_ne_nil {bs : List UInt8} (h : bs ≠ []) :
    lines bs = (splitLine bs).1 :: lines (splitLine bs).2 := by
  induction bs with
  | nil => exact absurd rfl h
  | cons b bs ih =>
    rw [lines, splitLine]
    split_ifs with hb
    · rfl
    · cases bs with
      | nil => rfl
      | cons b' bs => rw [ih (List.cons_ne_nil b' bs)]

/-- The lines make up the bytes. -/
theorem flatten_lines (bs : List UInt8) : (lines bs).flatten = bs := by
  induction bs with
  | nil => rfl
  | cons b bs ih =>
    rw [lines]
    split_ifs with hb
    · rw [List.flatten_cons, ih, List.singleton_append]
    · cases hlines : lines bs with
      | nil => rw [← ih, hlines]; rfl
      | cons line behind => rw [← ih, hlines]; rfl

/-- The text of a line, if it is one. -/
def decode? (line : List UInt8) : Option String :=
  String.fromUTF8? ⟨line.toArray⟩

/-- The line is a text, but no answer to the question. -/
def Rejects (q : Question) (line : List UInt8) : Prop :=
  ∃ text, decode? line = some text ∧ q.interpret (Text.trim text) = none

/-- What comes of a question, and what is left unread, if no other lines than these are left and the
first of them is not rejected. -/
inductive Takes (q : Question) :
    List (List UInt8) → Except PromptError Response → List UInt8 → Prop
  | answer {line : List UInt8} {text : String} {r : Response} (htext : decode? line = some text)
      (hr : q.interpret (Text.trim text) = some r) (behind : List (List UInt8)) :
      Takes q (line :: behind) (.ok r) behind.flatten
  | notText {line : List UInt8} (hline : decode? line = none) (behind : List (List UInt8)) :
      Takes q (line :: behind) (.error .notText) behind.flatten
  | closed : Takes q [] (.error .closed) []

/-- What is written for a line that is rejected: that an answer is asked for, and the warning. -/
def rejection (q : Question) (t : Terminal) : String :=
  q.answerLine ++ (t.paint invalidResponse .red ++ "\n")

/-- An answer is read from the first line. -/
theorem Takes.exists_line {lines : List (List UInt8)} {r : Response} {rest : List UInt8}
    (h : Takes q lines (.ok r) rest) :
    ∃ line text, lines.head? = some line ∧ decode? line = some text ∧
      q.interpret (Text.trim text) = some r := by
  cases h with
  | answer htext hr behind => exact ⟨_, _, rfl, htext, hr⟩

/-- Lines are rejected until there is one to take. -/
theorem readAnswer_takes (q : Question) (t : Terminal) :
    let r := readAnswer q t
    ∃ rejected rest, lines t.input = rejected ++ rest ∧ (∀ line ∈ rejected, Rejects q line) ∧
      Takes q rest r.1 r.2.input ∧ r.2.colours = t.colours ∧
      r.2.output =
        t.output ++ String.join (rejected.map fun _ => rejection q t) ++ q.answerLine := by
  have hnothing : ∀ line ∈ [], Rejects q line := fun line h => absurd h List.not_mem_nil
  have hfirst (output : String) :
      output ++ q.answerLine = output ++ String.join [] ++ q.answerLine := by
    rw [String.join_nil, String.append_empty]
  fun_induction readAnswer q t with
  | case1 t t' hend =>
    have hinput : t.input = [] := hend
    refine ⟨[], [], by rw [hinput]; rfl, hnothing, ?_, rfl, hfirst t.output⟩
    rw [hend]
    exact .closed
  | case2 t t' hne line behind hline =>
    refine ⟨[], _, lines_of_ne_nil hne, hnothing, ?_, rfl, hfirst t.output⟩
    have htakes := Takes.notText (q := q) hline (lines behind.input)
    rwa [flatten_lines] at htakes
  | case3 t t' hne line behind text htext r hr =>
    refine ⟨[], _, lines_of_ne_nil hne, hnothing, ?_, rfl, hfirst t.output⟩
    have htakes := Takes.answer htext hr (lines behind.input)
    rwa [flatten_lines] at htakes
  | case4 t t' hne line behind text htext hr ih =>
    obtain ⟨rejected, rest, hlines, hrejected, htakes, hcolours, houtput⟩ := ih
    refine ⟨line :: rejected, rest, ?_, ?_, htakes, hcolours, ?_⟩
    · rw [List.cons_append, ← hlines]
      exact lines_of_ne_nil hne
    · exact List.forall_mem_cons.2 ⟨⟨text, htext, hr⟩, hrejected⟩
    · have hwritten : (behind.writeLine invalidResponse .red).output =
          t.output ++ rejection q t := String.append_assoc
      rw [houtput, hwritten, List.map_cons, String.join_cons, ← String.append_assoc]
      rfl

/-- A question takes the first line of the input that is an answer to it or no text, and no byte
behind that line is read. If there is no such line, all of the input is read and found to be at its
end. The question is written, then the warning for each line in front that is rejected, and in front
of each line that an answer is asked for. A choice that is answered is offered, or it is the default
and the line is empty; a text is answered only where texts are accepted, and it is the key of no
choice that is offered. -/
theorem ask_takes_first (q : Question) (t : Terminal) :
    let r := Prompting.ask q t
    ∃ rejected rest, lines t.input = rejected ++ rest ∧ (∀ line ∈ rejected, Rejects q line) ∧
      Takes q rest r.1 r.2.input ∧ r.2.colours = t.colours ∧
      r.2.output = t.output ++ heading q t ++
        String.join (rejected.map fun _ => rejection q t) ++ q.answerLine ∧
      (∀ c, r.1 = .ok (.choice c) → c ∈ q.choices ∨
        q.default = some c ∧ ∃ line text, rest.head? = some line ∧ decode? line = some text ∧
          Text.trim text = "") ∧
      ∀ v, r.1 = .ok (.text v) → q.acceptsText = true ∧
        ∀ c ∈ q.choices, v ≠ String.singleton c.key ∧ v ≠ String.singleton c.key.toUpper := by
  intro r
  obtain ⟨rejected, rest, hlines, hrejected, htakes, hcolours, houtput⟩ :=
    readAnswer_takes q (t.write (heading q t))
  rw [← ask_eq] at htakes hcolours houtput
  refine ⟨rejected, rest, hlines, hrejected, htakes, hcolours, houtput, fun c hc => ?_,
    fun v hv => ?_⟩
  · rw [hc] at htakes
    obtain ⟨line, text, hline, htext, hr⟩ := htakes.exists_line
    obtain ⟨c', hdefault, hempty, heq⟩ | ⟨c', hoffered, heq⟩ | ⟨heq, -⟩ :=
      Question.interpret_cases hr
    · cases heq
      exact .inr ⟨hdefault, line, text, hline, htext, hempty⟩
    · cases heq
      exact .inl hoffered
    · cases heq
  · rw [hv] at htakes
    obtain ⟨line, text, -, -, hr⟩ := htakes.exists_line
    obtain ⟨c', -, -, heq⟩ | ⟨c', -, heq⟩ | ⟨heq, haccepts, -, hkeys⟩ :=
      Question.interpret_cases hr
    · cases heq
    · cases heq
    · cases heq
      exact ⟨haccepts, hkeys⟩

end PipelineScript.Terminal
