import Mathlib.Algebra.Order.Field.Basic
import Mathlib.Tactic.Positivity
import PipelineScript.Proofs.Number.Decimal
import PipelineScript.Proofs.Number.Shortest

/-!
# Rounding

A quotient is rounded to the number in whose range it lies, and so is a decimal, as long as it does
not have thousands of digits.
-/

namespace PipelineScript.Number

/-- A rounded quotient differs from the quotient by one half at most, and by less if it is odd. -/
theorem roundQuotient_toEven {n d m : Nat} (hd : 0 < d) (hm : roundQuotient .toEven n d = m) :
    (4 * m - 2 : ℚ) ≤ 4 * (n / d) ∧ (4 * (n / d) : ℚ) ≤ 4 * m + 2 ∧
      (m % 2 ≠ 0 → (4 * m - 2 : ℚ) < 4 * (n / d) ∧ (4 * (n / d) : ℚ) < 4 * m + 2) := by
  have hn := Nat.div_add_mod n d
  have hr := Nat.mod_lt n hd
  rw [roundQuotient] at hm
  generalize n / d = q at hn hm
  generalize n % d = r at hn hr hm
  have hd' : (0 : ℚ) < d := by exact_mod_cast hd
  have hquotient : (n / d : ℚ) = q + r / d := by
    rw [← hn]
    push_cast
    field_simp
  have hpart : (0 : ℚ) ≤ r / d := by positivity
  have hpart' : (r / d : ℚ) < 1 := by
    rw [div_lt_one hd']
    exact_mod_cast hr
  have hless : 2 * r < d ↔ (r / d : ℚ) < 1 / 2 := by
    rw [div_lt_iff₀ hd', ← Nat.cast_lt (α := ℚ), Nat.cast_mul, Nat.cast_ofNat]
    constructor <;> intro h <;> linarith
  have htie : 2 * r = d ↔ (r / d : ℚ) = 1 / 2 := by
    rw [div_eq_iff hd'.ne', ← Nat.cast_inj (R := ℚ), Nat.cast_mul, Nat.cast_ofNat]
    constructor <;> intro h <;> linarith
  rw [hquotient]
  generalize (r / d : ℚ) = t at hpart hpart' hless htie
  split_ifs at hm with hround
  · subst hm
    have hround : t < 1 / 2 ∨ t = 1 / 2 ∧ q % 2 = 0 := by simpa [hless, htie] using hround
    refine ⟨by linarith, ?_, fun hodd => ⟨by linarith, ?_⟩⟩
    · obtain h | ⟨h, -⟩ := hround <;> linarith
    · obtain h | ⟨-, heven⟩ := hround
      · linarith
      · exact absurd heven hodd
  · subst hm
    have hround : ¬t < 1 / 2 ∧ (t = 1 / 2 → q % 2 ≠ 0) := by simpa [hless, htie] using hround
    obtain ⟨hge, htie⟩ := hround
    push_cast
    refine ⟨by linarith, by linarith, fun hodd => ⟨?_, by linarith⟩⟩
    have hne : t ≠ 1 / 2 := fun h => htie h (by omega)
    have hgt : 1 / 2 < t := lt_of_le_of_ne (not_lt.1 hge) hne.symm
    linarith

namespace Binary64

variable {n d : Nat}

/-- The mantissa that a quotient is rounded to, in quarters of the unit. -/
theorem roundQuotient_inUnits (hd : 0 < d) {e : Int} {m : Nat}
    (hm : roundQuotient .toEven (inUnits n d e).1 (inUnits n d e).2 = m) :
    (4 * m - 2 : ℚ) * 2 ^ (e - 2) ≤ n / d ∧ (n / d : ℚ) ≤ (4 * m + 2) * 2 ^ (e - 2) ∧
      (m % 2 ≠ 0 → (4 * m - 2 : ℚ) * 2 ^ (e - 2) < n / d ∧
        (n / d : ℚ) < (4 * m + 2) * 2 ^ (e - 2)) := by
  have hunit : (0 : ℚ) < 2 ^ (e - 2) := zpow_pos (by norm_num) _
  have hquotient : (n / d : ℚ) = 4 * ((inUnits n d e).1 / (inUnits n d e).2) * 2 ^ (e - 2) := by
    rw [inUnits_div, zpow_sub₀ (by norm_num)]
    have := zpow_pos (show (0 : ℚ) < 2 by norm_num) e
    field_simp
    norm_num
  rw [hquotient]
  obtain ⟨hlow, hhigh, hodd⟩ := roundQuotient_toEven (inUnits_snd_pos hd n e) hm
  refine ⟨by gcongr, by gcongr, fun h => ?_⟩
  obtain ⟨hlow, hhigh⟩ := hodd h
  exact ⟨by gcongr, by gcongr⟩

/-- A quotient is in the range of the number that it is rounded to. -/
theorem roundsTo_carry (hn : 0 < n) (hd : 0 < d) {r : Nat × Int}
    (hr : carry (roundQuotient .toEven (inUnits n d (unitExponent n d)).1
      (inUnits n d (unitExponent n d)).2) (unitExponent n d) = r) :
    RoundsTo (n / d) r.1 r.2 ∧ (2 ^ 52 ≤ r.1 ∨ r.2 = -1074) := by
  obtain ⟨hupper, hlower, hleast⟩ := unitExponent_spec hn hd
  generalize unitExponent n d = e at hupper hlower hleast hr
  generalize hm : roundQuotient .toEven (inUnits n d e).1 (inUnits n d e).2 = m at hr
  obtain ⟨hlow, hhigh, hodd⟩ := roundQuotient_inUnits hd hm
  have hx : (0 : ℚ) < n / d := div_pos (by exact_mod_cast hn) (by exact_mod_cast hd)
  have hunit : (2 : ℚ) ^ e = 4 * 2 ^ (e - 2) := by
    rw [zpow_sub₀ (by norm_num)]
    norm_num
    ring
  rw [carry, Nat.pow_eq, Nat.pow_eq] at hr
  split_ifs at hr with hcarry
  · -- The range of a power of two begins a quarter of its unit below it.
    subst hr hcarry
    have hunit' : (2 : ℚ) ^ (e + 1 - 2) = 2 * 2 ^ (e - 2) := by
      rw [add_sub_right_comm, zpow_add₀ (by norm_num)]
      ring
    have hmid : lowMidpoint (2 ^ 52) (e + 1) = 2 ^ 54 - 1 := by
      rw [lowMidpoint, if_pos (by simp; omega)]
      rfl
    refine ⟨⟨?_, ?_, fun h => absurd (show 2 ^ 52 % 2 = 0 by decide) h⟩, .inl le_rfl⟩
    · rw [hmid, hunit']
      push_cast at hlow ⊢
      linarith
    · rw [hunit']
      rw [hunit] at hupper
      push_cast
      linarith
  · subst hr
    have hfull : 2 ^ 52 ≤ m ∨ e = -1074 := by
      refine hlower.imp (fun h => hm ▸ le_roundQuotient (inUnits_snd_pos hd n e) ?_) id
      rw [← not_lt, inUnits_lt_iff hd, not_lt]
      exact_mod_cast h
    have hmid : (lowMidpoint m e : ℚ) * 2 ^ (e - 2) ≤ n / d ∧
        (m % 2 ≠ 0 → (lowMidpoint m e : ℚ) * 2 ^ (e - 2) < n / d) := by
      rw [lowMidpoint]
      split_ifs with hpower
      · obtain ⟨rfl, hgreater⟩ : m = 2 ^ 52 ∧ -1074 < e := by simpa using hpower
        refine ⟨?_, fun h => absurd (show 2 ^ 52 % 2 = 0 by decide) h⟩
        obtain hlower | hlower := hlower
        · rw [hunit] at hlower
          push_cast
          linarith
        · omega
      · rcases Nat.eq_zero_or_pos m with rfl | hpos
        · simp [hx, hx.le]
        · have hcast : ((4 * m - 2 : ℕ) : ℚ) = 4 * m - 2 := by
            rw [Nat.cast_sub (by omega)]
            push_cast
            rfl
          rw [hcast]
          exact ⟨hlow, fun h => (hodd h).1⟩
    exact ⟨⟨hmid.1, hhigh, fun h => ⟨hmid.2 h, (hodd h).2⟩⟩, hfull⟩

/-- A quotient is rounded to the number in whose range it lies. -/
theorem ofQuotient_eq (hn : 0 < n) (hd : 0 < d) {negative : Bool} {m : Nat} {e : Int}
    (h : (finite negative m e).IsCanonical) (hx : RoundsTo (n / d) m e) :
    ofQuotient negative n d = finite negative m e := by
  have hcanonical := isCanonical_ofQuotient hn hd negative
  rw [ofQuotient] at hcanonical ⊢
  generalize hr : carry (roundQuotient .toEven (inUnits n d (unitExponent n d)).1
    (inUnits n d (unitExponent n d)).2) (unitExponent n d) = r at hcanonical ⊢
  obtain ⟨hr, hfull⟩ := roundsTo_carry hn hd hr
  split_ifs at hcanonical ⊢ with hlarge
  · have hlt : e < r.2 := by
      obtain ⟨-, -, -, hgreatest⟩ := h
      omega
    exact absurd hr (not_roundsTo_of_lt h hfull (.inl hlt) hx)
  · obtain ⟨hm, he⟩ := hr.unique hcanonical h hx
    rw [hm, he]

/-! ### Decimals -/

section Decimals

variable {x : ℚ} {m : Nat} {e : Int} {negative : Bool}

/-- The range of a positive number lies between two powers of two. -/
theorem RoundsTo.bounds (hm : 0 < m) (h : (finite negative m e).IsCanonical)
    (hx : RoundsTo x m e) : (2 : ℚ) ^ (e - 1) ≤ x ∧ x ≤ 2 ^ (e + 53) := by
  obtain ⟨hbits, -, -, -⟩ := h
  constructor
  · have hmid : 2 ≤ lowMidpoint m e := by
      rw [lowMidpoint]
      split_ifs <;> omega
    calc (2 : ℚ) ^ (e - 1)
      _ = 2 * 2 ^ (e - 2) := by
        rw [← zpow_one_add₀ (by norm_num)]
        congr 1
        omega
      _ ≤ lowMidpoint m e * 2 ^ (e - 2) := by
        gcongr
        exact_mod_cast hmid
      _ ≤ x := hx.low_le
  · have hmid : 4 * m + 2 ≤ 2 ^ 55 := by omega
    calc x
      _ ≤ (4 * m + 2) * 2 ^ (e - 2) := hx.le_high
      _ ≤ 2 ^ (55 : Int) * 2 ^ (e - 2) := by
        gcongr
        exact_mod_cast hmid
      _ = 2 ^ (e + 53) := by
        rw [← zpow_add₀ (by norm_num)]
        congr 1
        omega

/-- The size of a decimal is about the power of ten of its number. -/
theorem size_bounds {y : Decimal} (hne : y.coefficient ≠ 0) (hlength : y.coefficient.log2 ≤ 20000)
    (he : -1074 ≤ e ∧ e ≤ 971) (hy : (2 : ℚ) ^ (e - 1) ≤ y.value ∧ y.value ≤ 2 ^ (e + 53)) :
    -400 ≤ (y.coefficient.log2 * 30103 / 100000 + y.exponent : Int) ∧
      (y.coefficient.log2 * 30103 / 100000 + y.exponent : Int) ≤ 400 := by
  have hbits : (2 : ℚ) ^ (y.coefficient.log2 : Int) ≤ y.coefficient := by
    exact_mod_cast Nat.log2_self_le hne
  have hbits' : (y.coefficient : ℚ) < 2 ^ ((y.coefficient.log2 : Int) + 1) := by
    exact_mod_cast Nat.lt_log2_self
  rw [Decimal.value] at hy
  generalize y.coefficient.log2 = size at hlength hbits hbits'
  generalize (y.coefficient : ℚ) = c at hbits hbits' hy
  generalize y.exponent = k at hy
  have hten : (0 : ℚ) < 10 ^ k := zpow_pos (by norm_num) _
  have hc : 0 ≤ c := (zpow_pos (by norm_num) _).le.trans hbits
  constructor
  · by_contra hsmall
    have hk : (10 : ℚ) ^ k ≤ 2 ^ ((e - size) - 2) := by
      refine ten_zpow_le ?_ ?_ <;> omega
    have hlt : c * 10 ^ k < 2 ^ (e - 1) := by
      calc c * 10 ^ k
        _ < 2 ^ ((size : Int) + 1) * 10 ^ k := by gcongr
        _ ≤ 2 ^ ((size : Int) + 1) * 2 ^ ((e - size) - 2) := by gcongr
        _ = 2 ^ (e - 1) := by
          rw [← zpow_add₀ (by norm_num)]
          congr 1
          omega
    exact absurd (hy.1.trans_lt hlt) (lt_irrefl _)
  · by_contra hlarge
    have hk : (10 : ℚ) ^ (-k) ≤ 2 ^ ((size - e - 52) - 2) := by
      refine ten_zpow_le ?_ ?_ <;> omega
    have hk' : (2 : ℚ) ^ (e + 54 - size) ≤ 10 ^ k := by
      rw [← inv_le_inv₀ hten (zpow_pos (by norm_num) _), ← zpow_neg, ← zpow_neg]
      refine hk.trans_eq ?_
      congr 1
      omega
    have hlt : (2 : ℚ) ^ (e + 53) < c * 10 ^ k := by
      calc (2 : ℚ) ^ (e + 53)
        _ < 2 ^ (e + 54) := zpow_lt_zpow_right₀ (by norm_num) (by omega)
        _ = 2 ^ (size : Int) * 2 ^ (e + 54 - size) := by
          rw [← zpow_add₀ (by norm_num)]
          congr 1
          omega
        _ ≤ c * 10 ^ k := by gcongr
    exact absurd (hlt.trans_le hy.2) (lt_irrefl _)

/-- A decimal is rounded to the number in whose range it lies. -/
theorem ofDecimal_eq {y : Decimal} (hlength : y.coefficient.log2 ≤ 20000) (hm : 0 < m)
    (h : (finite y.negative m e).IsCanonical) (hy : RoundsTo y.value m e) :
    ofDecimal y = finite y.negative m e := by
  have hne : y.coefficient ≠ 0 := by
    intro hzero
    have hpos := hy.pos hm
    rw [Decimal.value, hzero, Nat.cast_zero, zero_mul] at hpos
    exact lt_irrefl _ hpos
  obtain ⟨hsmall, hlarge⟩ := size_bounds hne hlength h.2.2 (hy.bounds hm h)
  have hten (k : Nat) : 0 < Nat.pow 10 k := Nat.pow_pos (by decide)
  have hvalue : y.value = ((y.coefficient * Nat.pow 10 y.exponent.toNat : Nat) : ℚ) /
      (Nat.pow 10 (-y.exponent).toNat : Nat) := by
    have hpos : (10 : ℚ) ^ (-y.exponent).toNat ≠ 0 := pow_ne_zero _ (by norm_num)
    simp only [Nat.pow_eq, Nat.cast_mul, Nat.cast_pow, Nat.cast_ofNat, Decimal.value]
    rw [pow_toNat (by norm_num) y.exponent, ← mul_assoc, mul_div_cancel_right₀ _ hpos]
  rw [hvalue] at hy
  rw [ofDecimal, if_neg (by simp [hne]; omega), if_neg (by omega)]
  exact ofQuotient_eq (Nat.mul_pos (Nat.pos_of_ne_zero hne) (hten _)) (hten _) h hy

end Decimals

end Binary64

end PipelineScript.Number
