import PipelineScript.Number.Layout
import PipelineScript.Proofs.Number.RoundTrip
import PipelineScript.Proofs.Yaml.Resolved

/-!
# The spelling of plain scalars

A plain scalar is read as a text, a number, a truth value or null. A number and a truth value have
one spelling that the document writes them with; it is read as the same value again. All other
spellings of the value are lost.
-/

namespace PipelineScript.Yaml

open Number

/-! ### Numerals -/

/-- The text has a point or an exponent. -/
def HasMark (cs : List Char) : Prop :=
  ∃ c ∈ cs, c = '.' ∨ c = 'e'

section Numerals

variable {cs : List Char} {y : Decimal} {negative : Bool}

theorem HasMark.of_cons {c : Char} (h : HasMark (c :: cs)) (hc : c ≠ '.') (hc' : c ≠ 'e') :
    HasMark cs := by
  obtain ⟨d, hd, hmark⟩ := h
  rcases List.mem_cons.1 hd with rfl | hd
  · exact (hmark.elim hc hc').elim
  · exact ⟨d, hd, hmark⟩

theorem HasMark.not_digits (h : HasMark cs) : ¬cs.all Char.isDigit := by
  obtain ⟨c, hc, hmark⟩ := h
  intro hdigits
  have hdigit := List.all_eq_true.1 hdigits c hc
  obtain rfl | rfl := hmark
  · cases hdigit
  · cases hdigit

theorem HasMark.natural?_eq_none (h : HasMark cs) : natural? 10 cs = none := by
  have hfold (v : Nat) :
      cs.foldlM (fun v c => (digit? 10 c).map (10 * v + ·)) v = none := by
    induction cs generalizing v with
    | nil =>
      obtain ⟨c, hc, -⟩ := h
      cases hc
    | cons c cs ih =>
      rw [List.foldlM_cons]
      by_cases hc : c = '.' ∨ c = 'e'
      · obtain rfl | rfl := hc <;> rfl
      · rw [not_or] at hc
        cases digit? 10 c with
        | none => rfl
        | some d => exact ih (h.of_cons hc.1 hc.2) _
  rw [natural?, hfold, ite_self]

theorem HasMark.isPaddedNumber_eq_false (h : HasMark cs) : isPaddedNumber cs = false := by
  rw [isPaddedNumber.eq_def]
  dsimp only
  split
  · rename_i d r hdigits
    have hmark : HasMark ('0' :: d :: r) := by
      rw [← hdigits]
      split
      · exact h.of_cons (by decide) (by decide)
      · exact h.of_cons (by decide) (by decide)
      · exact h
    exact Bool.eq_false_iff.2 (hmark.of_cons (by decide) (by decide)).not_digits
  · rfl

/-- No numeral with a point or an exponent is an integer. -/
theorem magnitude?_eq_none (hread : Decimal.unsigned? negative cs = some y)
    (hmark : HasMark cs) : magnitude? cs = none := by
  rw [magnitude?.eq_def]
  split
  · cases hread
  · cases hread
  · cases hread
  · rw [hmark.isPaddedNumber_eq_false, hmark.natural?_eq_none]
    rfl

theorem integer?_eq_none (hread : Decimal.read? cs = some y) (hmark : HasMark cs) :
    integer? cs = none := by
  rw [integer?.eq_def]
  split
  · cases hread
  · rw [magnitude?_eq_none hread (hmark.of_cons (by decide) (by decide))]
    rfl
  · rename_i hplus hminus
    rw [Decimal.read?.eq_def] at hread
    split at hread
    · exact (hminus _ rfl).elim
    · rw [magnitude?_eq_none hread hmark]
      rfl

theorem beginsNumber_of_read? {c : Char} (h : Decimal.read? (c :: cs) = some y) :
    beginsNumber c = true := by
  by_contra hc
  simp only [beginsNumber, Bool.or_eq_true, beq_iff_eq, not_or, Bool.not_eq_true] at hc
  obtain ⟨⟨⟨hdigit, -⟩, hminus⟩, hpoint⟩ := hc
  rw [Decimal.read?.eq_def] at h
  split at h
  · rename_i hcs
    exact hminus (List.cons.inj hcs).1
  · simp [Decimal.unsigned?, hdigit, hpoint] at h

/-- A numeral is read as a finite number, if at all. -/
theorem real?_of_read? {s : String} {y : Decimal} (h : Decimal.read? s.toList = some y) :
    real? s = finiteNumber? s.toList := by
  have hspecial : ∀ t ∈ [".inf", ".Inf", ".INF", "+.inf", "+.Inf", "+.INF", "-.inf", "-.Inf",
      "-.INF", ".nan", ".NaN", ".NAN"], Decimal.read? t.toList = none := by decide
  have hnot {l : List String} (hl : ∀ t ∈ l, Decimal.read? t.toList = none) : s ∉ l := by
    intro hs
    rw [hl s hs] at h
    cases h
  rw [real?, if_neg (hnot (by decide)), if_neg (hnot (by decide)), if_neg (hnot (by decide))]
  split
  · rename_i hs
    rw [hs] at h
    cases h
  · rename_i hs
    rw [hs] at h
    cases h
  · rfl

end Numerals

theorem real?_write {x : Binary64} (h : x.IsCanonical) :
    real? (Layout.document.write x) = some x := by
  cases x with
  | finite negative m e =>
    have hround := Layout.ofDecimal_read?_write h
    obtain ⟨y, hread, hy⟩ := Option.map_eq_some_iff.1 hround
    rw [real?_of_read? hread, finiteNumber?, hround]
    rfl
  | infinite negative => cases negative <;> decide
  | nan => decide

theorem plainValue_write {x : Binary64} (h : x.IsCanonical) :
    plainValue (Layout.document.write x) = .ok (.real x) := by
  cases x with
  | finite negative m e =>
    have hreal := real?_write h
    have hmark : HasMark _ := Layout.exists_mark_mem_write (.finite negative m e)
    obtain ⟨y, hread, -⟩ := Layout.read?_write_finite h
    generalize Layout.document.write (.finite negative m e) = s at hreal hmark hread
    have hnumber : numberValue s = .ok (.real (.finite negative m e)) := by
      rw [numberValue, integer?_eq_none hread hmark, hmark.isPaddedNumber_eq_false,
        if_neg (by decide), hreal]
      rfl
    rw [plainValue]
    split
    · rename_i hs
      rw [hs] at hread
      cases hread
    · rename_i c cs hs
      rw [hs] at hread
      rw [if_pos (beginsNumber_of_read? hread), hnumber]
  | infinite negative => cases negative <;> rfl
  | nan => rfl

/-! ### Digits -/

theorem head?_toDigits_ne {n : Nat} (hn : 0 < n) : (Nat.toDigits 10 n).head? ≠ some '0' := by
  induction n using Nat.strongRecOn with
  | ind n ih =>
    rcases Nat.lt_or_ge n 10 with hlt | hge
    · have hdigit : ∀ n < 10, 0 < n → [n.digitChar].head? ≠ some '0' := by decide
      rw [Nat.toDigits_of_lt_base hlt]
      exact hdigit n hlt hn
    · rw [Nat.toDigits_of_base_le (by decide) hge,
        List.head?_append_of_ne_nil _ Nat.toDigits_ne_nil]
      exact ih (n / 10) (by omega) (by omega)

/-- Digits without a superfluous zero. -/
theorem magnitude?_toDigits (n : Nat) : magnitude? (Nat.toDigits 10 n) = some n := by
  have hdigits : ∀ c ∈ Nat.toDigits 10 n, c.isDigit = true := fun _ => isDigit_of_mem_toDigits
  have hpadded : isPaddedNumber (Nat.toDigits 10 n) = false := by
    rw [isPaddedNumber.eq_def]
    dsimp only
    split
    · rename_i d r hcs
      split at hcs
      · rename_i hminus
        rw [hminus] at hdigits
        cases hdigits '-' (by simp)
      · rename_i hplus
        rw [hplus] at hdigits
        cases hdigits '+' (by simp)
      · rcases Nat.eq_zero_or_pos n with rfl | hn
        · cases hcs
        · exact absurd (congrArg List.head? hcs) (head?_toDigits_ne hn)
    · rfl
  have hnatural := natural?_toDigits n
  rw [magnitude?.eq_def]
  split
  · rename_i hcs
    rw [hcs] at hdigits
    cases hdigits 'x' (by simp)
  · rename_i hcs
    rw [hcs] at hdigits
    cases hdigits 'o' (by simp)
  · rename_i hcs
    rw [hcs] at hdigits
    cases hdigits 'b' (by simp)
  · rw [hpadded, hnatural]
    rfl

theorem integer?_toString (n : Int) : integer? (toString n).toList = some n := by
  obtain ⟨k, rfl, htext⟩ | ⟨k, rfl, htext⟩ := Decimal.toList_toString n
  · have hdigits : ∀ c ∈ Nat.toDigits 10 k, c.isDigit = true := fun _ => isDigit_of_mem_toDigits
    rw [htext, integer?.eq_def]
    split
    · rename_i hcs
      rw [hcs] at hdigits
      cases hdigits '+' (by simp)
    · rename_i hcs
      rw [hcs] at hdigits
      cases hdigits '-' (by simp)
    · rw [magnitude?_toDigits]
      rfl
  · rw [htext, integer?, magnitude?_toDigits]
    rfl

theorem plainValue_toString {n : Int} (h : fits 64 n) :
    plainValue (toString n) = .ok (.integer n) := by
  have hnumber : numberValue (toString n) = .ok (.integer n) := by
    rw [numberValue, integer?_toString, Option.bind_some, ofInteger?, if_pos h]
  rw [plainValue]
  split
  · rename_i hs
    have hinteger := integer?_toString n
    rw [hs] at hinteger
    cases hinteger
  · rename_i c cs hs
    have hbegins : beginsNumber c = true := by
      obtain ⟨k, -, htext⟩ | ⟨k, -, htext⟩ := Decimal.toList_toString n
      · have hdigit : c.isDigit = true := by
          refine @isDigit_of_mem_toDigits k c ?_
          rw [← htext, hs]
          exact List.mem_cons_self
        simp [beginsNumber, hdigit]
      · rw [hs] at htext
        cases htext
        rfl
    rw [if_pos hbegins, hnumber]

/-! ### Values -/

/-- The value is one that a plain scalar with the text `s` can be read as. -/
inductive IsReading (s : String) : Value → Prop
  | null (h : s = "" ∨ isNull s) : IsReading s .null
  | bool (b : Bool) : IsReading s (.bool b)
  | integer {n : Int} (h : fits 64 n) : IsReading s (.integer n)
  | real {x : Binary64} (h : x.IsCanonical) : IsReading s (.real x)
  | text : IsReading s (.text s)

theorem isReading_of_numberValue {s : String} {v : Value} (h : numberValue s = .ok v) :
    IsReading s v := by
  rw [numberValue] at h
  split at h
  · rename_i hinteger
    subst h
    obtain ⟨n, -, hn⟩ := Option.bind_eq_some_iff.1 hinteger
    rw [ofInteger?] at hn
    split_ifs at hn with hfits
    · cases hn
      exact .integer hfits
    · cases hn
  · split at h
    · rename_i hreal
      cases h
      split_ifs at hreal
      exact .real (isCanonical_of_real? hreal)
    · cases h
      exact .text

theorem isReading_of_plainValue {s : String} {v : Value} (h : plainValue s = .ok v) :
    IsReading s v := by
  rw [plainValue] at h
  split at h
  · rename_i hs
    cases h
    exact .null (.inl (String.toList_eq_nil_iff.1 hs))
  · split_ifs at h
    · exact isReading_of_numberValue h
    · cases h
      rw [wordValue]
      split_ifs with hnull
      · exact .null (.inr hnull)
      · split
        · exact .bool _
        · exact .text

/-- The text is the one that a truth value or a number is written as. -/
def IsWritten (s : String) : Prop :=
  s = "true" ∨ s = "false" ∨ (∃ n, fits 64 n ∧ s = toString n) ∨
    ∃ x : Binary64, x.IsCanonical ∧ s = Layout.document.write x

end PipelineScript.Yaml
