import Mathlib.Algebra.Order.Field.Power
import Mathlib.Tactic.FieldSimp
import Mathlib.Tactic.Linarith
import Mathlib.Tactic.Ring
import PipelineScript.Number.Binary64

/-!
# Canonical floating point numbers

A floating point number can be written with one mantissa and one exponent only. Rounding a quotient
makes numbers of this form: the exponent is chosen so that the mantissa has all its bits, unless it
is the least exponent, and a mantissa that is rounded up to one bit more is halved.
-/

namespace PipelineScript.Number

theorem roundQuotient_cases (tie : Tie) (n d : Nat) :
    roundQuotient tie n d = n / d ∨ roundQuotient tie n d = n / d + 1 := by
  rw [roundQuotient]
  split_ifs
  · exact .inl rfl
  · exact .inr rfl

theorem roundQuotient_le {tie : Tie} {n d k : Nat} (hd : 0 < d) (h : n < k * d) :
    roundQuotient tie n d ≤ k := by
  have hlt := (Nat.div_lt_iff_lt_mul hd).2 h
  rcases roundQuotient_cases tie n d with heq | heq <;> omega

theorem le_roundQuotient {tie : Tie} {n d k : Nat} (hd : 0 < d) (h : k * d ≤ n) :
    k ≤ roundQuotient tie n d := by
  have hle := (Nat.le_div_iff_mul_le hd).2 h
  rcases roundQuotient_cases tie n d with heq | heq <;> omega

namespace Binary64

/-- A finite number has all bits of its mantissa, unless it has the least exponent. -/
def IsCanonical : Binary64 → Prop
  | finite _ m e => m < 2 ^ 53 ∧ (2 ^ 52 ≤ m ∨ e = -1074) ∧ -1074 ≤ e ∧ e ≤ 971
  | _ => True

variable {n d : Nat}

theorem inUnits_div (n d : Nat) (e : Int) :
    ((inUnits n d e).1 : ℚ) / (inUnits n d e).2 = n / d / 2 ^ e := by
  rcases Int.le_total 0 e with h | h
  · obtain ⟨k, rfl⟩ := Int.eq_ofNat_of_zero_le h
    simp [inUnits, div_div]
  · obtain ⟨k, hk⟩ := Int.eq_ofNat_of_zero_le (Int.neg_nonneg_of_nonpos h)
    obtain rfl : e = -k := by omega
    simp [inUnits, mul_div_right_comm]

theorem inUnits_snd_pos (hd : 0 < d) (n : Nat) (e : Int) : 0 < (inUnits n d e).2 :=
  Nat.mul_pos hd (Nat.pow_pos (by decide))

theorem inUnits_lt_iff (hd : 0 < d) (k : Nat) (e : Int) :
    (inUnits n d e).1 < k * (inUnits n d e).2 ↔ (n / d : ℚ) < k * 2 ^ e := by
  have hpos : (0 : ℚ) < (inUnits n d e).2 := by exact_mod_cast inUnits_snd_pos hd n e
  rw [← div_lt_iff₀ (zpow_pos (by norm_num) e), ← inUnits_div, div_lt_iff₀ hpos]
  exact_mod_cast Iff.rfl

/-- The sizes of the numerator and of the denominator tell about the size of the quotient. -/
theorem div_size (hn : 0 < n) (hd : 0 < d) :
    (2 : ℚ) ^ ((n.log2 : Int) - d.log2 - 1) ≤ n / d ∧
      (n / d : ℚ) < 2 ^ ((n.log2 : Int) - d.log2 + 1) := by
  have hd' : (0 : ℚ) < d := by exact_mod_cast hd
  have hn₁ : (2 : ℚ) ^ (n.log2 : Int) ≤ n := by exact_mod_cast Nat.log2_self_le hn.ne'
  have hn₂ : (n : ℚ) < 2 ^ ((n.log2 : Int) + 1) := by exact_mod_cast Nat.lt_log2_self
  have hd₁ : (2 : ℚ) ^ (d.log2 : Int) ≤ d := by exact_mod_cast Nat.log2_self_le hd.ne'
  have hd₂ : (d : ℚ) < 2 ^ ((d.log2 : Int) + 1) := by exact_mod_cast Nat.lt_log2_self
  constructor
  · rw [le_div_iff₀ hd']
    calc (2 : ℚ) ^ ((n.log2 : Int) - d.log2 - 1) * d
      _ ≤ 2 ^ ((n.log2 : Int) - d.log2 - 1) * 2 ^ ((d.log2 : Int) + 1) := by gcongr
      _ = 2 ^ (n.log2 : Int) := by
        rw [← zpow_add₀ (by norm_num)]
        congr 1
        omega
      _ ≤ n := hn₁
  · rw [div_lt_iff₀ hd']
    calc (n : ℚ)
      _ < 2 ^ ((n.log2 : Int) + 1) := hn₂
      _ = 2 ^ ((n.log2 : Int) - d.log2 + 1) * 2 ^ (d.log2 : Int) := by
        rw [← zpow_add₀ (by norm_num)]
        congr 1
        omega
      _ ≤ 2 ^ ((n.log2 : Int) - d.log2 + 1) * d := by gcongr

/-- In units of the chosen power of two the quotient has 53 bits in front of the point, unless the
power is the least one. -/
theorem unitExponent_spec (hn : 0 < n) (hd : 0 < d) :
    (n / d : ℚ) < 2 ^ 53 * 2 ^ unitExponent n d ∧
      ((2 : ℚ) ^ 52 * 2 ^ unitExponent n d ≤ n / d ∨ unitExponent n d = -1074) ∧
      -1074 ≤ unitExponent n d := by
  obtain ⟨hlower, hupper⟩ := div_size hn hd
  let low : Int := max ((n.log2 : Int) - d.log2 - 53) (-1074)
  have hbits : (inUnits n d low).2 * 2 ^ 53 ≤ (inUnits n d low).1 ↔
      (2 : ℚ) ^ 53 * 2 ^ low ≤ n / d := by
    rw [← not_lt, ← not_lt, Nat.mul_comm]
    exact_mod_cast not_congr (inUnits_lt_iff hd (2 ^ 53) low)
  have hunit : unitExponent n d = if (2 : ℚ) ^ 53 * 2 ^ low ≤ n / d then low + 1 else low := by
    rw [unitExponent]
    simp only [Nat.pow_eq]
    exact if_congr hbits rfl rfl
  rw [hunit]
  split_ifs with h
  · refine ⟨hupper.trans_le ?_, .inl ?_, by omega⟩
    · rw [← zpow_natCast, ← zpow_add₀ (by norm_num)]
      exact zpow_le_zpow_right₀ (by norm_num) (by omega)
    · refine le_of_eq_of_le ?_ h
      rw [zpow_add₀ (by norm_num)]
      norm_num
      ring
  · refine ⟨not_le.1 h, ?_, by omega⟩
    by_cases hleast : low = -1074
    · exact .inr hleast
    · refine .inl (le_of_eq_of_le ?_ hlower)
      rw [← zpow_natCast, ← zpow_add₀ (by norm_num)]
      congr 1
      omega

theorem isCanonical_ofQuotient (hn : 0 < n) (hd : 0 < d) (negative : Bool) :
    (ofQuotient negative n d).IsCanonical := by
  obtain ⟨hupper, hlower, hleast⟩ := unitExponent_spec hn hd
  rw [ofQuotient]
  generalize unitExponent n d = e at hupper hlower hleast
  have hpos := inUnits_snd_pos hd n e
  have hle : roundQuotient .toEven (inUnits n d e).1 (inUnits n d e).2 ≤ 2 ^ 53 :=
    roundQuotient_le hpos ((inUnits_lt_iff hd _ e).2 (by exact_mod_cast hupper))
  have hge : 2 ^ 52 ≤ roundQuotient .toEven (inUnits n d e).1 (inUnits n d e).2 ∨ e = -1074 := by
    refine hlower.imp (fun h => le_roundQuotient hpos ?_) id
    rw [← not_lt, inUnits_lt_iff hd, not_lt]
    exact_mod_cast h
  generalize roundQuotient .toEven (inUnits n d e).1 (inUnits n d e).2 = m at hle hge
  simp only [carry, Nat.pow_eq]
  split_ifs with hcarry hlarge hlarge
  · trivial
  · exact ⟨Nat.pow_lt_pow_right (by decide) (by decide), .inl le_rfl, by omega, by omega⟩
  · trivial
  · exact ⟨by omega, hge, hleast, by omega⟩

theorem isCanonical_ofDecimal (x : Decimal) : (ofDecimal x).IsCanonical := by
  rw [ofDecimal]
  split_ifs with hsmall hlarge
  · exact ⟨by decide, .inr rfl, by decide, by decide⟩
  · trivial
  · rw [Bool.or_eq_true, not_or, decide_eq_true_iff] at hsmall
    have hten (k : Nat) : 0 < Nat.pow 10 k := Nat.pow_pos (by decide)
    exact isCanonical_ofQuotient (Nat.mul_pos (Nat.pos_of_ne_zero hsmall.1) (hten _)) (hten _) _

end Binary64

end PipelineScript.Number
