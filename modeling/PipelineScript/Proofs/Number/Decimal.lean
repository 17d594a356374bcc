import Mathlib.Algebra.Order.Field.Power
import Mathlib.Data.Rat.Cast.Order
import PipelineScript.Number.Decimal

/-!
# Reading numerals

A numeral is made of digits, a point and an exponent. Whatever the place of the point is, the digits
stand for the same coefficient, and the exponent is less by the digits behind the point.
-/

namespace PipelineScript.Number

/-- Digits are read in the usual way. -/
theorem digit?_of_isDigit {c : Char} (h : c.isDigit = true) :
    digit? 10 c = some (c.toNat - '0'.toNat) := by
  have hbounds := Char.isDigit_iff_toNat.1 h
  have hdigit : ('0' ≤ c && c ≤ '9') = true := by
    rw [Bool.and_eq_true, decide_eq_true_eq, decide_eq_true_eq]
    exact hbounds
  have hlt : c.toNat - '0'.toNat < 10 := by
    have : '9'.toNat = '0'.toNat + 9 := rfl
    omega
  simp only [digit?, hdigit, if_true, hlt]

theorem natural?_of_digits {cs : List Char} (hne : cs ≠ []) (h : ∀ c ∈ cs, c.isDigit = true) :
    natural? 10 cs = some (Nat.ofDigitChars 10 cs 0) := by
  have hfold (v : Nat) (cs : List Char) (h : ∀ c ∈ cs, c.isDigit = true) :
      cs.foldlM (fun v c => (digit? 10 c).map (10 * v + ·)) v =
        some (Nat.ofDigitChars 10 cs v) := by
    induction cs generalizing v with
    | nil => rfl
    | cons c cs ih =>
      rw [List.foldlM_cons, digit?_of_isDigit (h c List.mem_cons_self), Nat.ofDigitChars_cons]
      exact ih _ fun d hd => h d (List.mem_cons_of_mem c hd)
  rw [natural?, if_neg (by simpa using hne), hfold 0 cs h]

theorem isDigit_of_mem_toDigits {n : Nat} {c : Char} (h : c ∈ Nat.toDigits 10 n) :
    c.isDigit = true :=
  Nat.isDigit_of_mem_toDigits (by decide) (by decide) h

theorem natural?_toDigits (n : Nat) : natural? 10 (Nat.toDigits 10 n) = some n := by
  rw [natural?_of_digits Nat.toDigits_ne_nil fun c hc => isDigit_of_mem_toDigits hc,
    Nat.ofDigitChars_ten_toDigits]

namespace Decimal

/-- The number without its sign. -/
def value (x : Decimal) : ℚ :=
  x.coefficient * 10 ^ x.exponent

theorem digitsValue_eq (cs : List Char) : digitsValue cs = Nat.ofDigitChars 10 cs 0 := rfl

/-- An integer is written with its digits, behind a minus sign if it is negative. -/
theorem toList_toString (n : Int) :
    (∃ k, n = Int.ofNat k ∧ (toString n).toList = Nat.toDigits 10 k) ∨
      ∃ k, n = Int.negSucc k ∧ (toString n).toList = '-' :: Nat.toDigits 10 (k + 1) := by
  cases n with
  | ofNat k => exact .inl ⟨k, rfl, by simp [toString, Int.repr]⟩
  | negSucc k => exact .inr ⟨k, rfl, by simp [toString, Int.repr]⟩

/-- An exponent that is written is read. -/
theorem exponent?_toString (n : Int) : exponent? ('e' :: (toString n).toList) = some n := by
  obtain ⟨k, rfl, htext⟩ | ⟨k, rfl, htext⟩ := toList_toString n
  · have hsign {c : Char} (hc : c.isDigit = false) (cs : List Char) :
        Nat.toDigits 10 k ≠ c :: cs := by
      intro hcs
      rw [isDigit_of_mem_toDigits (hcs ▸ List.mem_cons_self)] at hc
      cases hc
    rw [htext, exponent?, if_pos (by decide), natural?_toDigits]
    · rfl
    · exact hsign rfl
    · exact hsign rfl
  · rw [htext, exponent?, if_pos (by decide), natural?_toDigits]
    rfl

variable {whole fraction rest : List Char} (negative : Bool)

theorem takeWhile_digits (hwhole : ∀ c ∈ whole, c.isDigit = true)
    (hrest : ∀ c ∈ rest.head?, c.isDigit = false) :
    (whole ++ rest).takeWhile Char.isDigit = whole ∧
      (whole ++ rest).dropWhile Char.isDigit = rest := by
  rw [List.takeWhile_append_of_pos hwhole, List.dropWhile_append_of_pos hwhole]
  cases rest with
  | nil => simp
  | cons c cs => simp [hrest c rfl]

/-- A numeral without a point. -/
theorem unsigned?_whole (hne : whole ≠ []) (hwhole : ∀ c ∈ whole, c.isDigit = true)
    (hrest : ∀ c ∈ rest.head?, c.isDigit = false ∧ c ≠ '.') :
    unsigned? negative (whole ++ rest) =
      (exponent? rest).map fun e => ⟨negative, digitsValue whole, e⟩ := by
  obtain ⟨htake, hdrop⟩ := takeWhile_digits hwhole fun c hc => (hrest c hc).1
  rw [unsigned?, htake, hdrop]
  cases rest with
  | nil => simp [hne]
  | cons c cs => simp [hne, (hrest c rfl).2]

/-- A numeral with a point. -/
theorem unsigned?_point (hne : whole ≠ []) (hwhole : ∀ c ∈ whole, c.isDigit = true)
    (hfraction : ∀ c ∈ fraction, c.isDigit = true)
    (hrest : ∀ c ∈ rest.head?, c.isDigit = false) :
    unsigned? negative (whole ++ '.' :: (fraction ++ rest)) =
      (exponent? rest).map fun e =>
        ⟨negative, digitsValue (whole ++ fraction), e - fraction.length⟩ := by
  have hpoint : ∀ c ∈ ('.' :: (fraction ++ rest)).head?, c.isDigit = false :=
    fun c hc => Option.some.inj hc ▸ rfl
  obtain ⟨htake, hdrop⟩ := takeWhile_digits hwhole hpoint
  obtain ⟨htake', hdrop'⟩ := takeWhile_digits hfraction hrest
  rw [unsigned?, htake, hdrop]
  simp [htake', hdrop', hne]

end Decimal

end PipelineScript.Number
