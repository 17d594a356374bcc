import Mathlib.Data.List.DropRight
import PipelineScript.Proofs.Prompter.Recorder
import PipelineScript.Terminal

/-!
# What a terminal answers

The input of a terminal is made of bytes and is read by lines. If it is a text, each of its lines is
one, so that every answer is one that its question admits, and the only reason for no answer is the
end of the input.
-/

namespace PipelineScript

/-! ### Answers that a question admits -/

namespace Text

/-- A text that has been trimmed has no white space at its ends. -/
theorem trim_trim (s : String) : trim (trim s) = trim s := by
  rw [trim, trim, String.toList_ofList]
  congr 1
  let cs := s.toList.dropWhile isWhite
  have hstart : (cs.rdropWhile isWhite).dropWhile isWhite = cs.rdropWhile isWhite := by
    rw [List.dropWhile_eq_self_iff]
    intro hlength
    rw [(List.rdropWhile_prefix isWhite cs).getElem hlength]
    exact List.dropWhile_get_zero_not isWhite s.toList _
  change ((cs.rdropWhile isWhite).dropWhile isWhite).rdropWhile isWhite = cs.rdropWhile isWhite
  rw [hstart, List.rdropWhile_idempotent]

end Text

/-- The question admits the answer: a choice that it offers, its default, or a text that is not
empty and has no white space at its ends. -/
def Question.Admits (q : Question) : Response → Prop
  | .choice c => c ∈ q.choices ∨ q.default = some c
  | .text v => q.acceptsText = true ∧ v ≠ "" ∧ Text.trim v = v

/-- What is typed is read as the default if it is empty, as an offered choice by its key, or else as
a text, which is the key of no offered choice in lower or upper case. -/
theorem Question.interpret_cases {q : Question} {input : String} {r : Response}
    (h : q.interpret input = some r) :
    (∃ c, q.default = some c ∧ input = "" ∧ r = .choice c) ∨
      (∃ c ∈ q.choices, r = .choice c) ∨
      (r = .text input ∧ q.acceptsText = true ∧ input ≠ "" ∧
        ∀ c ∈ q.choices,
          input ≠ String.singleton c.key ∧ input ≠ String.singleton c.key.toUpper) := by
  rw [interpret] at h
  by_cases hempty : input.isEmpty
  · rw [if_pos hempty] at h
    obtain ⟨c, hdefault, rfl⟩ := Option.map_eq_some_iff.1 h
    exact .inl ⟨c, hdefault, String.isEmpty_iff.1 hempty, rfl⟩
  · rw [if_neg hempty] at h
    split at h
    next c hfind =>
      have hoffered := List.mem_of_find?_eq_some hfind
      rw [offered, List.mem_filter] at hoffered
      exact .inr (.inl ⟨c, List.contains_iff_mem.1 hoffered.2, (Option.some.inj h).symm⟩)
    next hfind =>
      split_ifs at h with haccepts
      refine .inr (.inr ⟨(Option.some.inj h).symm, haccepts, ?_, fun c hc => ?_⟩)
      · exact fun hnil => hempty (String.isEmpty_iff.2 hnil)
      · have hoffered : c ∈ q.offered :=
          List.mem_filter.2 ⟨by cases c <;> decide, List.contains_iff_mem.2 hc⟩
        have hkey := List.find?_eq_none.1 hfind c hoffered
        constructor
        · rintro rfl
          cases c <;> exact hkey (by decide)
        · rintro rfl
          cases c <;> exact hkey (by decide)

/-- What a typed line is read as is admitted. -/
theorem Question.admits_of_interpret {q : Question} {line : String} {r : Response}
    (h : q.interpret (Text.trim line) = some r) : q.Admits r := by
  obtain ⟨c, hdefault, -, rfl⟩ | ⟨c, hc, rfl⟩ | ⟨rfl, haccepts, hne, -⟩ := interpret_cases h
  · exact .inr hdefault
  · exact .inl hc
  · exact ⟨haccepts, hne, Text.trim_trim line⟩

/-! ### Lines of a text -/

namespace Terminal

/-- The bytes of a text. -/
def encode (cs : List Char) : List UInt8 :=
  cs.flatMap String.utf8EncodeChar

/-- Only a line feed is encoded with the byte of a line feed. -/
theorem lineFeed_not_mem_utf8EncodeChar {c : Char} (h : c ≠ '\n') :
    10 ∉ String.utf8EncodeChar c := by
  have hc : c.val.toNat ≠ 10 := fun heq => h (Char.ext (UInt32.toNat_inj.1 heq))
  have hten : UInt8.toNat 10 = 10 := rfl
  simp only [String.utf8EncodeChar]
  split_ifs <;>
    simp only [List.mem_cons, List.not_mem_nil, or_false, not_or, ← UInt8.toNat_inj,
      UInt8.toNat_ofNat', hten] <;>
    omega

theorem splitLine_append_of_not_mem {bs : List UInt8} (h : 10 ∉ bs) (bs' : List UInt8) :
    splitLine (bs ++ bs') = (bs ++ (splitLine bs').1, (splitLine bs').2) := by
  induction bs with
  | nil => rfl
  | cons b bs ih =>
    obtain ⟨hb, hbs⟩ := List.ne_and_not_mem_of_not_mem_cons h
    rw [List.cons_append, splitLine, if_neg (Ne.symm hb), ih hbs]
    rfl

/-- The first line of a text is a text, and so is what is behind it. -/
theorem exists_splitLine_encode (cs : List Char) :
    ∃ line behind, splitLine (encode cs) = (encode line, encode behind) := by
  induction cs with
  | nil => exact ⟨[], [], rfl⟩
  | cons c cs ih =>
    by_cases hc : c = '\n'
    · exact ⟨['\n'], cs, by rw [hc]; rfl⟩
    · obtain ⟨line, behind, hsplit⟩ := ih
      refine ⟨c :: line, behind, ?_⟩
      rw [encode, List.flatMap_cons,
        splitLine_append_of_not_mem (lineFeed_not_mem_utf8EncodeChar hc)]
      change (_ ++ (splitLine (encode cs)).1, (splitLine (encode cs)).2) = _
      rw [hsplit]
      rfl

/-- The bytes of a text are read as that text. -/
theorem fromUTF8?_encode (cs : List Char) :
    String.fromUTF8? ⟨(encode cs).toArray⟩ = some (String.ofList cs) := by
  have hbytes : (⟨(encode cs).toArray⟩ : ByteArray) = cs.utf8Encode :=
    ByteArray.ext (Array.ext' List.toList_data_toByteArray.symm)
  rw [String.fromUTF8?, dif_pos (.intro cs hbytes)]
  congr 1
  rw [← String.toByteArray_inj, String.toByteArray_ofList]
  exact hbytes

/-- What has not been read of the input is a text. -/
def IsText (t : Terminal) : Prop :=
  ∃ cs, t.input = encode cs

theorem isText_mk (text output : String) (colours : Bool) :
    IsText ⟨text.toUTF8.data.toList, output, colours⟩ := by
  refine ⟨text.toList, ?_⟩
  have hbytes := String.toByteArray_ofList (l := text.toList)
  rw [String.ofList_toList] at hbytes
  rw [String.toUTF8, hbytes, List.utf8Encode, List.toList_data_toByteArray, encode]

/-- The first line of what has not been read is a text, and so is what is behind it. -/
theorem IsText.exists_splitLine {t : Terminal} (h : t.IsText) :
    ∃ line behind, splitLine t.input = (encode line, encode behind) := by
  obtain ⟨cs, hinput⟩ := h
  rw [hinput]
  exact exists_splitLine_encode cs

/-- While the input is a text, an answer is admitted by its question and leaves a text; or the input
has come to its end. -/
theorem readAnswer_of_isText {q : Question} {t : Terminal} (h : t.IsText) :
    (∃ r, (readAnswer q t).1 = .ok r ∧ q.Admits r ∧ (readAnswer q t).2.IsText) ∨
      ((readAnswer q t).1 = .error .closed ∧ (readAnswer q t).2.input = []) := by
  fun_induction readAnswer q t with
  | case1 t t' hend => exact .inr ⟨rfl, hend⟩
  | case2 t t' hne line behind hnone =>
    obtain ⟨cs, ds, hsplit⟩ := h.exists_splitLine
    have hline : line = encode cs := congrArg Prod.fst hsplit
    rw [hline, fromUTF8?_encode] at hnone
    cases hnone
  | case3 t t' hne line behind text htext r hr =>
    obtain ⟨cs, ds, hsplit⟩ := h.exists_splitLine
    exact .inl ⟨r, rfl, Question.admits_of_interpret hr, ds, congrArg Prod.snd hsplit⟩
  | case4 t t' hne line behind text htext hr ih =>
    obtain ⟨cs, ds, hsplit⟩ := h.exists_splitLine
    exact ih ⟨ds, congrArg Prod.snd hsplit⟩

/-- Behind the end of the input there are no answers. -/
theorem readAnswer_of_end (q : Question) {t : Terminal} (h : t.input = []) :
    (readAnswer q t).1 = .error .closed ∧ (readAnswer q t).2.input = [] := by
  rw [readAnswer, dif_pos (by exact h)]
  exact ⟨rfl, h⟩

/-- What is written of a question before an answer is read. -/
def heading (q : Question) (t : Terminal) : String :=
  (q.context.elim "" fun context => t.paint context q.colour ++ "\n") ++
    (t.paint q.text q.colour ++ "\n")

/-- A question is shown, and then its answer is read. -/
theorem ask_eq (q : Question) (t : Terminal) :
    Prompting.ask q t = readAnswer q (t.write (heading q t)) := by
  change ask q t = _
  rw [ask, heading]
  cases q.context with
  | none => rw [Option.elim_none, String.empty_append]; rfl
  | some context => rw [Option.elim_some, write, ← String.append_assoc]; rfl

/-- The terminal that shows a question, before it reads an answer. -/
theorem exists_ask_eq (q : Question) (t : Terminal) :
    ∃ t' : Terminal, t'.input = t.input ∧ Prompting.ask q t = readAnswer q t' :=
  ⟨t.write (heading q t), rfl, ask_eq q t⟩

end Terminal

end PipelineScript
