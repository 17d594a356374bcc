import Mathlib.Data.List.TakeWhile
import PipelineScript.Proofs.Number.Layout
import PipelineScript.Proofs.Number.Rounding

/-!
# Numbers that are read back

The text of each number of a document is rounded back to the number. It is short enough for that:
a numeral of `n` characters has a coefficient below `10 ^ n`, and no number takes thousands of
characters.
-/

namespace PipelineScript.Number

/-! ### Coefficients -/

namespace Decimal

variable {cs : List Char} {negative : Bool} {y : Decimal}

theorem digitsValue_lt (h : ∀ c ∈ cs, c.isDigit = true) : digitsValue cs < 10 ^ cs.length := by
  have hdigits (v : Nat) : Nat.ofDigitChars 10 cs v < (v + 1) * 10 ^ cs.length := by
    induction cs generalizing v with
    | nil => simp
    | cons c cs ih =>
      have hlt : c.toNat - '0'.toNat < 10 := by
        have hbounds := Char.isDigit_iff_toNat.1 (h c List.mem_cons_self)
        have : '9'.toNat = '0'.toNat + 9 := rfl
        omega
      rw [Nat.ofDigitChars_cons, List.length_cons, Nat.pow_succ']
      calc Nat.ofDigitChars 10 cs (10 * v + (c.toNat - '0'.toNat))
        _ < (10 * v + (c.toNat - '0'.toNat) + 1) * 10 ^ cs.length :=
          ih (fun c hc => h c (List.mem_cons_of_mem _ hc)) _
        _ ≤ ((v + 1) * 10) * 10 ^ cs.length := Nat.mul_le_mul_right _ (by omega)
        _ = (v + 1) * (10 * 10 ^ cs.length) := Nat.mul_assoc _ _ _
  rw [digitsValue_eq]
  simpa using hdigits 0

theorem unsigned?_coefficient_lt (h : unsigned? negative cs = some y) :
    y.coefficient < 10 ^ cs.length := by
  rw [unsigned?] at h
  have hcs : cs.takeWhile Char.isDigit ++ cs.dropWhile Char.isDigit = cs :=
    List.takeWhile_append_dropWhile
  have hwhole : ∀ c ∈ cs.takeWhile Char.isDigit, c.isDigit = true :=
    fun c hc => List.mem_takeWhile_imp hc
  generalize cs.takeWhile Char.isDigit = whole at h hcs hwhole
  generalize cs.dropWhile Char.isDigit = behind at h hcs
  split at h
  rename_i fraction rest hsplit
  have hfraction : (∀ c ∈ fraction, c.isDigit = true) ∧ fraction.length ≤ behind.length := by
    split at hsplit
    · rename_i r
      cases hsplit
      refine ⟨fun c hc => List.mem_takeWhile_imp hc, ?_⟩
      exact (List.takeWhile_prefix _).length_le.trans (Nat.le_succ _)
    · cases hsplit
      exact ⟨by simp, Nat.zero_le _⟩
  split_ifs at h
  obtain ⟨e, -, rfl⟩ := Option.map_eq_some_iff.1 h
  have hdigits : ∀ c ∈ whole ++ fraction, c.isDigit = true := fun c hc =>
    (List.mem_append.1 hc).elim (hwhole c) (hfraction.1 c)
  refine (digitsValue_lt hdigits).trans_le (Nat.pow_le_pow_right (by decide) ?_)
  rw [← hcs, List.length_append, List.length_append]
  exact Nat.add_le_add_left hfraction.2 _

theorem read?_coefficient_lt (h : read? cs = some y) : y.coefficient < 10 ^ cs.length := by
  rw [read?.eq_def] at h
  split at h
  · rename_i cs
    exact (unsigned?_coefficient_lt h).trans_le (Nat.pow_le_pow_right (by decide) (Nat.le_succ _))
  · exact unsigned?_coefficient_lt h

end Decimal

/-! ### Lengths -/

theorem stripZeros_bounds (bound d : Nat) (k : Int) :
    (stripZeros bound d k).1 ≤ d ∧ k ≤ (stripZeros bound d k).2 ∧
      (stripZeros bound d k).2 ≤ k + bound := by
  induction bound generalizing d k with
  | zero => simp [stripZeros]
  | succ bound ih =>
    rw [stripZeros]
    split_ifs
    · obtain ⟨hd, hk, hk'⟩ := ih (d / 10) (k + 1)
      have hdiv := Nat.div_le_self d 10
      omega
    · omega

theorem length_toString_le {n : Int} {k : Nat} (hk : 0 < k) (h : n.natAbs < 10 ^ k) :
    (toString n).toList.length ≤ k + 1 := by
  obtain ⟨j, rfl, htext⟩ | ⟨j, rfl, htext⟩ := Decimal.toList_toString n
  · rw [htext]
    exact ((Nat.length_toDigits_le_iff (by decide) hk).2 h).trans (Nat.le_succ k)
  · rw [htext]
    exact Nat.succ_le_succ ((Nat.length_toDigits_le_iff (by decide) hk).2 h)

namespace Layout

theorem length_positional_le (ds : List Char) (p : Int) :
    (positional ds p).length ≤ ds.length + p.natAbs + 2 := by
  rw [positional]
  split_ifs
  · simp only [List.length_append, List.length_replicate]
    have : "0.".toList.length = 2 := rfl
    omega
  · simp only [List.length_append, List.length_replicate]
    have : ".0".toList.length = 2 := rfl
    omega
  · simp only [List.length_append, List.length_cons, List.length_take, List.length_drop]
    omega

theorem length_scientific_le (ds : List Char) {p : Int} {k : Nat} (hk : 0 < k)
    (h : (p - 1).natAbs < 10 ^ k) : (scientific ds p).length ≤ ds.length + k + 3 := by
  have hexponent := length_toString_le hk h
  rw [scientific.eq_def]
  dsimp only
  split <;> simp only [List.length_cons, List.length_append, List.length_nil] <;> omega

end Layout

namespace Binary64

variable {m : Nat} {e : Int} {negative : Bool}

/-- The last digit of a number stands for no extreme power of ten. -/
theorem shortest_exponent (tie : Tie) (hm : 0 < m) (h : (finite negative m e).IsCanonical) :
    -400 ≤ (shortest tie m e).2 ∧ (shortest tie m e).2 ≤ 400 := by
  obtain ⟨hbits, -, hleast, hgreatest⟩ := h
  have hsize : m.log2 < 53 := (Nat.log2_lt hm.ne').2 hbits
  rw [shortest]
  generalize hsize' : (m.log2 + 1 + e) * 30103 / 100000 + 1 = size
  cases hfound : ((List.range 24).map (size - Int.ofNat ·)).findSome? fun k =>
      (onGrid? tie m e k).map (·, k) with
  | none => decide
  | some found =>
    obtain ⟨k, hk, hfound⟩ := List.exists_of_findSome?_eq_some hfound
    obtain ⟨d, -, rfl⟩ := Option.map_eq_some_iff.1 hfound
    obtain ⟨i, hi, rfl⟩ := List.mem_map.1 hk
    have hi := List.mem_range.1 hi
    rw [Option.getD_some, Int.ofNat_eq_natCast]
    omega

/-- A number has few digits. -/
theorem length_digits_le (tie : Tie) (hm : 0 < m) (h : (finite negative m e).IsCanonical)
    {n : Nat} (hn : n ≤ (shortest tie m e).1) : (Nat.toDigits 10 n).length ≤ 1500 := by
  have hx := roundsTo_shortest tie hm h
  obtain ⟨hk, -⟩ := shortest_exponent tie hm h
  obtain ⟨-, hhigh⟩ := hx.bounds hm h
  obtain ⟨-, -, -, hgreatest⟩ := h
  generalize shortest tie m e = found at hk hhigh hn
  obtain ⟨d, k⟩ := found
  have hten : (0 : ℚ) < 10 ^ k := zpow_pos (by norm_num) _
  have hbinary : (2 : ℚ) ^ (e + 53) ≤ 10 ^ ((e + 53).toNat : Int) := by
    calc (2 : ℚ) ^ (e + 53)
      _ ≤ 2 ^ ((e + 53).toNat : Int) := zpow_le_zpow_right₀ (by norm_num) (by omega)
      _ ≤ 10 ^ ((e + 53).toNat : Int) := by
        rw [zpow_natCast, zpow_natCast]
        gcongr
        norm_num
  have hd : (d : ℚ) ≤ 10 ^ ((e + 53).toNat + (-k).toNat) := by
    rw [← mul_le_mul_iff_left₀ hten]
    calc (d : ℚ) * 10 ^ k
      _ ≤ 2 ^ (e + 53) := hhigh
      _ ≤ 10 ^ ((e + 53).toNat : Int) := hbinary
      _ ≤ 10 ^ (((e + 53).toNat + (-k).toNat : Nat) + k : Int) :=
        zpow_le_zpow_right₀ (by norm_num) (by omega)
      _ = 10 ^ ((e + 53).toNat + (-k).toNat) * 10 ^ k := by
        rw [zpow_add₀ (by norm_num), zpow_natCast]
  have hlt : n < 10 ^ ((e + 53).toNat + (-k).toNat + 1) :=
    calc n
      _ ≤ d := hn
      _ ≤ 10 ^ ((e + 53).toNat + (-k).toNat) := by exact_mod_cast hd
      _ < 10 ^ ((e + 53).toNat + (-k).toNat + 1) := Nat.pow_lt_pow_succ (by decide)
  have hlength := (Nat.length_toDigits_le_iff (by decide) (Nat.succ_pos _)).2 hlt
  omega

end Binary64

namespace Layout

open Binary64 Decimal

variable {m : Nat} {e : Int} {negative : Bool}

theorem length_magnitude_le (hm : 0 < m) (h : (finite negative m e).IsCanonical) :
    (document.magnitude m e).length ≤ 4000 := by
  obtain ⟨hk, hk'⟩ := shortest_exponent document.tie hm h
  have hdigits (n : Nat) := @length_digits_le m e negative document.tie hm h n
  rw [magnitude, if_neg hm.ne']
  generalize shortest document.tie m e = found at hk hk' hdigits
  obtain ⟨d, k⟩ := found
  obtain ⟨hd, hlow, hhigh⟩ := stripZeros_bounds 24 d k
  generalize hr : stripZeros 24 d k = r at hd hlow hhigh
  have hlength := hdigits r.1 hd
  simp only [hr]
  generalize Nat.toDigits 10 r.1 = ds at hlength
  dsimp only at hk hk'
  split_ifs
  · have hpositional := length_positional_le ds (ds.length + r.2)
    omega
  · have hscientific := @length_scientific_le ds (ds.length + r.2) 4 (by decide) (by omega)
    omega

/-- The text of a number of a document is rounded back to the number. -/
theorem ofDecimal_read?_write (h : (finite negative m e).IsCanonical) :
    (read? (document.write (finite negative m e)).toList).map ofDecimal =
      some (finite negative m e) := by
  obtain ⟨y, hread, rfl, hvalue⟩ := read?_write_finite h
  rw [hread, Option.map_some]
  congr 1
  obtain ⟨rfl, hzero⟩ | ⟨hm, hrounds⟩ := hvalue
  · have hcoefficient : y.coefficient = 0 := by
      have hten : (10 : ℚ) ^ y.exponent ≠ 0 := zpow_ne_zero _ (by norm_num)
      have := (mul_eq_zero.1 hzero).resolve_right hten
      exact_mod_cast this
    have he : e = -1074 := by
      obtain ⟨-, hleast, -⟩ := h
      omega
    rw [ofDecimal, hcoefficient, he]
    rfl
  · refine ofDecimal_eq ?_ hm h hrounds
    have hlength : (document.write (finite y.negative m e)).toList.length ≤ 4001 := by
      have := length_magnitude_le hm h
      rw [write, String.toList_ofList]
      split_ifs
      · exact Nat.succ_le_succ this
      · exact this.trans (Nat.le_succ _)
    have hlt := read?_coefficient_lt hread
    generalize (document.write (finite y.negative m e)).toList.length = n at hlength hlt
    rcases Nat.eq_zero_or_pos y.coefficient with hzero | hpos
    · rw [hzero]
      decide
    · have hbits : y.coefficient < 2 ^ (4 * n) := by
        calc y.coefficient
          _ < 10 ^ n := hlt
          _ ≤ 16 ^ n := Nat.pow_le_pow_left (by decide) n
          _ = 2 ^ (4 * n) := by rw [Nat.pow_mul]
      have hlog := (Nat.log2_lt hpos.ne').2 hbits
      omega

end Layout

end PipelineScript.Number
