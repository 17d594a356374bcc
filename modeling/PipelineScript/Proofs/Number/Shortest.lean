import PipelineScript.Proofs.Number.Binary64

/-!
# Shortest digits

Each positive canonical number has a range of numbers that are rounded to it, and no two ranges have
a number in common. The digits with which a number is written stand for one of its range. So they
tell it from all other numbers.
-/

namespace PipelineScript.Number.Binary64

/-- The midpoint to the number below, in quarters of the unit; the number below a power of two is
nearer. -/
def lowMidpoint (m : Nat) (e : Int) : Nat :=
  if m = Nat.pow 2 52 && -1074 < e then 4 * m - 1 else 4 * m - 2

/-- The number `x` is rounded to `m · 2 ^ e`: it lies between the midpoints to the neighbours, and
is none of them if the mantissa is odd. -/
structure RoundsTo (x : ℚ) (m : Nat) (e : Int) : Prop where
  low_le : lowMidpoint m e * 2 ^ (e - 2) ≤ x
  le_high : x ≤ (4 * m + 2) * 2 ^ (e - 2)
  inside (h : m % 2 ≠ 0) : lowMidpoint m e * 2 ^ (e - 2) < x ∧ x < (4 * m + 2) * 2 ^ (e - 2)

variable {x : ℚ} {m m' : Nat} {e e' : Int}

/-! ### Ranges -/

theorem RoundsTo.pos (hm : 0 < m) (h : RoundsTo x m e) : 0 < x := by
  have hlow : (0 : ℚ) < lowMidpoint m e := by
    have : 0 < lowMidpoint m e := by
      rw [lowMidpoint]
      split_ifs <;> omega
    exact_mod_cast this
  exact (mul_pos hlow (zpow_pos (by norm_num) _)).trans_le h.low_le

/-- A smaller number ends below the midpoint at which a larger one begins, or the two are
neighbours, of which one is odd. -/
theorem highMidpoint_le {negative : Bool} (h : (finite negative m e).IsCanonical)
    (hfull' : 2 ^ 52 ≤ m' ∨ e' = -1074) (hlt : e < e' ∨ e = e' ∧ m < m') :
    4 * m + 2 ≤ 2 ^ (e' - e).toNat * lowMidpoint m' e' ∧
      (m % 2 = 0 → m' % 2 = 0 → 4 * m + 2 < 2 ^ (e' - e).toNat * lowMidpoint m' e') := by
  obtain ⟨hm, hfull, hleast, -⟩ := h
  have hlow : lowMidpoint m' e' =
      if m' = 2 ^ 52 ∧ -1074 < e' then 4 * m' - 1 else 4 * m' - 2 := by
    simp [lowMidpoint]
  rcases hlt with hlt | ⟨rfl, hlt⟩
  · have hbegin : 2 ^ 54 - 1 ≤ lowMidpoint m' e' := by
      rw [hlow]
      split_ifs <;> omega
    have htwo : 2 ≤ 2 ^ (e' - e).toNat := Nat.le_pow (by omega)
    have hmul := Nat.mul_le_mul htwo hbegin
    omega
  · have hbegin : lowMidpoint m' e = 4 * m' - 2 := by
      rw [hlow, if_neg (by omega)]
    simp only [Int.sub_self, Int.toNat_zero, Nat.pow_zero, Nat.one_mul, hbegin]
    omega

/-- No number is rounded both to a smaller and to a larger number. -/
theorem not_roundsTo_of_lt {negative : Bool} (h : (finite negative m e).IsCanonical)
    (hfull' : 2 ^ 52 ≤ m' ∨ e' = -1074) (hlt : e < e' ∨ e = e' ∧ m < m')
    (hx : RoundsTo x m e) : ¬RoundsTo x m' e' := by
  intro hx'
  obtain ⟨hle, hstrict⟩ := highMidpoint_le h hfull' hlt
  have hunit : (0 : ℚ) < 2 ^ (e - 2) := zpow_pos (by norm_num) _
  have hunits : (2 : ℚ) ^ (e' - 2) = 2 ^ (e' - e).toNat * 2 ^ (e - 2) := by
    rw [← zpow_natCast, ← zpow_add₀ (by norm_num)]
    congr 1
    omega
  have hbegin : (lowMidpoint m' e' : ℚ) * 2 ^ (e' - 2) =
      (2 ^ (e' - e).toNat * lowMidpoint m' e' : Nat) * 2 ^ (e - 2) := by
    rw [hunits]
    push_cast
    ring
  have hend : (4 * m + 2 : ℚ) * 2 ^ (e - 2) ≤ lowMidpoint m' e' * 2 ^ (e' - 2) := by
    rw [hbegin]
    gcongr
    exact_mod_cast hle
  by_cases heven : m % 2 = 0
  · by_cases heven' : m' % 2 = 0
    · have hlt : (4 * m + 2 : ℚ) * 2 ^ (e - 2) < lowMidpoint m' e' * 2 ^ (e' - 2) := by
        rw [hbegin]
        gcongr
        exact_mod_cast hstrict heven heven'
      exact absurd (hx.le_high.trans_lt (hlt.trans_le hx'.low_le)) (lt_irrefl x)
    · exact absurd (hx.le_high.trans_lt (hend.trans_lt (hx'.inside heven').1)) (lt_irrefl x)
  · exact absurd ((hx.inside heven).2.trans_le (hend.trans hx'.low_le)) (lt_irrefl x)

/-- A number is rounded to one mantissa and one exponent only. -/
theorem RoundsTo.unique {negative : Bool} (h : (finite negative m e).IsCanonical)
    (h' : (finite negative m' e').IsCanonical) (hx : RoundsTo x m e) (hx' : RoundsTo x m' e') :
    m = m' ∧ e = e' := by
  rcases lt_trichotomy e e' with hlt | rfl | hlt
  · exact absurd hx' (not_roundsTo_of_lt h h'.2.1 (.inl hlt) hx)
  · rcases lt_trichotomy m m' with hlt | rfl | hlt
    · exact absurd hx' (not_roundsTo_of_lt h h'.2.1 (.inr ⟨rfl, hlt⟩) hx)
    · exact ⟨rfl, rfl⟩
    · exact absurd hx (not_roundsTo_of_lt h' h.2.1 (.inr ⟨rfl, hlt⟩) hx')
  · exact absurd hx (not_roundsTo_of_lt h' h.2.1 (.inl hlt) hx')

/-! ### Grids -/

/-- The distance of the points of a grid and the quarter of a unit, as multiples of one number. -/
def gridScale (e k : Int) : Nat × Nat :=
  (Nat.pow 10 k.toNat * Nat.pow 2 (2 - e).toNat, Nat.pow 10 (-k).toNat * Nat.pow 2 (e - 2).toNat)

theorem pow_toNat {b : ℚ} (hb : b ≠ 0) (k : Int) : b ^ k.toNat = b ^ k * b ^ (-k).toNat := by
  rw [← zpow_natCast, ← zpow_natCast, ← zpow_add₀ hb]
  congr 1
  omega

theorem gridScale_fst (e k : Int) :
    ((gridScale e k).1 : ℚ) * 2 ^ (e - 2) = 10 ^ k * (gridScale e k).2 := by
  have hten := pow_toNat (show (10 : ℚ) ≠ 0 by norm_num) k
  have htwo := pow_toNat (show (2 : ℚ) ≠ 0 by norm_num) (e - 2)
  have hneg : -(e - 2) = 2 - e := by omega
  rw [hneg] at htwo
  simp only [gridScale, Nat.pow_eq, Nat.cast_mul, Nat.cast_pow, Nat.cast_ofNat]
  rw [hten, htwo]
  ring

theorem gridScale_snd_pos (e k : Int) : (0 : ℚ) < (gridScale e k).2 := by
  have : 0 < (gridScale e k).2 := Nat.mul_pos (Nat.pow_pos (by decide)) (Nat.pow_pos (by decide))
  exact_mod_cast this

/-- A point of a grid is compared with a midpoint by multiples of one number. -/
theorem mul_gridScale_compare (a d : Nat) (e k : Int) :
    (a * (gridScale e k).2 ≤ d * (gridScale e k).1 ↔ (a : ℚ) * 2 ^ (e - 2) ≤ d * 10 ^ k) ∧
      (d * (gridScale e k).1 ≤ a * (gridScale e k).2 ↔ (d : ℚ) * 10 ^ k ≤ a * 2 ^ (e - 2)) := by
  have hunit : (0 : ℚ) < 2 ^ (e - 2) := zpow_pos (by norm_num) _
  have hpos := gridScale_snd_pos e k
  have hmidpoint : ((a * (gridScale e k).2 : ℕ) : ℚ) * 2 ^ (e - 2) =
      a * 2 ^ (e - 2) * (gridScale e k).2 := by
    push_cast
    ring
  have hpoint : ((d * (gridScale e k).1 : ℕ) : ℚ) * 2 ^ (e - 2) =
      d * 10 ^ k * (gridScale e k).2 := by
    push_cast
    rw [mul_assoc, gridScale_fst]
    ring
  constructor
  · rw [← mul_le_mul_iff_left₀ hpos, ← hmidpoint, ← hpoint, mul_le_mul_iff_left₀ hunit, Nat.cast_le]
  · rw [← mul_le_mul_iff_left₀ hpos, ← hmidpoint, ← hpoint, mul_le_mul_iff_left₀ hunit, Nat.cast_le]

/-- The point of a grid is within the range of the number. -/
def hits (m : Nat) (e k : Int) (d : Nat) : Bool :=
  let x := d * (gridScale e k).1
  if m % 2 = 0 then
    lowMidpoint m e * (gridScale e k).2 ≤ x && x ≤ (4 * m + 2) * (gridScale e k).2
  else lowMidpoint m e * (gridScale e k).2 < x && x < (4 * m + 2) * (gridScale e k).2

theorem onGrid?_eq (tie : Tie) (m : Nat) (e k : Int) :
    onGrid? tie m e k =
      let centre := 4 * m * (gridScale e k).2
      let nearest := roundQuotient tie centre (gridScale e k).1
      let below := centre / (gridScale e k).1
      let other := if nearest = below then below + 1 else below
      if hits m e k nearest then some nearest else if hits m e k other then some other else none :=
  rfl

theorem hits_iff {k : Int} {d : Nat} : hits m e k d = true ↔ RoundsTo (d * 10 ^ k) m e := by
  obtain ⟨hlow, hlow'⟩ := mul_gridScale_compare (lowMidpoint m e) d e k
  obtain ⟨hhigh, hhigh'⟩ := mul_gridScale_compare (4 * m + 2) d e k
  have hcast : ((4 * m + 2 : ℕ) : ℚ) = 4 * m + 2 := by push_cast; rfl
  rw [hcast] at hhigh hhigh'
  rw [hits]
  split_ifs with heven
  · simp only [Bool.and_eq_true, decide_eq_true_eq, hlow, hhigh']
    exact ⟨fun h => ⟨h.1, h.2, fun hodd => absurd heven hodd⟩, fun h => ⟨h.low_le, h.le_high⟩⟩
  · simp only [Bool.and_eq_true, decide_eq_true_eq, ← Nat.not_le, hlow', hhigh]
    simp only [not_le]
    exact ⟨fun h => ⟨h.1.le, h.2.le, fun _ => h⟩, fun h => h.inside heven⟩

theorem roundsTo_of_onGrid? {tie : Tie} {k : Int} {d : Nat} (h : onGrid? tie m e k = some d) :
    RoundsTo (d * 10 ^ k) m e := by
  rw [onGrid?_eq] at h
  rw [← hits_iff]
  extract_lets centre nearest below other at h
  split_ifs at h with hnearest hother
  · exact Option.some.inj h ▸ hnearest
  · exact Option.some.inj h ▸ hother

/-- A grid that is no wider than a quarter of the unit has a point in the range. -/
theorem onGrid?_isSome (tie : Tie) (hm : 0 < m) {k : Int} (h : (10 : ℚ) ^ k ≤ 2 ^ (e - 2)) :
    (onGrid? tie m e k).isSome := by
  have hscale : (gridScale e k).1 ≤ (gridScale e k).2 := by
    have := (mul_gridScale_compare 1 1 e k).2
    simpa using this.2 (by simpa using h)
  have hwidth : 0 < (gridScale e k).1 :=
    Nat.mul_pos (Nat.pow_pos (by decide)) (Nat.pow_pos (by decide))
  have hlow : (lowMidpoint m e + 1) * (gridScale e k).2 ≤ 4 * m * (gridScale e k).2 := by
    refine Nat.mul_le_mul_right _ ?_
    rw [lowMidpoint]
    split_ifs <;> omega
  rw [onGrid?_eq]
  extract_lets centre nearest below other
  have hbelow : below * (gridScale e k).1 ≤ centre := Nat.div_mul_le_self _ _
  have habove : centre < below * (gridScale e k).1 + (gridScale e k).1 :=
    Nat.lt_div_mul_add hwidth
  have hinside : lowMidpoint m e * (gridScale e k).2 < nearest * (gridScale e k).1 ∧
      nearest * (gridScale e k).1 < (4 * m + 2) * (gridScale e k).2 := by
    have hnearest : nearest = below ∨ nearest = below + 1 := roundQuotient_cases _ _ _
    rw [Nat.add_mul, Nat.one_mul] at hlow
    rw [Nat.add_mul]
    rcases hnearest with hnearest | hnearest
    · rw [hnearest]
      omega
    · rw [hnearest, Nat.add_mul, Nat.one_mul]
      omega
  have hhit : hits m e k nearest = true := by
    rw [hits]
    split_ifs
    · simp [hinside.1.le, hinside.2.le]
    · simp [hinside]
  rw [if_pos hhit]
  rfl

/-! ### Sizes -/

/-- Three decimal digits are fewer than ten binary digits, and 28 are more than 93. -/
theorem ten_zpow_le {j : Int} (h : 10 * j ≤ 3 * (e - 2)) (h' : 93 * j ≤ 28 * (e - 2)) :
    (10 : ℚ) ^ j ≤ 2 ^ (e - 2) := by
  have hpos : (0 : ℚ) ≤ 2 ^ (e - 2) := (zpow_pos (by norm_num) _).le
  rcases Int.le_total 0 j with hj | hj
  · obtain ⟨n, rfl⟩ := Int.eq_ofNat_of_zero_le hj
    refine le_of_pow_le_pow_left₀ (by decide : 3 ≠ 0) hpos ?_
    calc ((10 : ℚ) ^ (n : Int)) ^ 3
      _ = 1000 ^ n := by
        rw [zpow_natCast, ← pow_mul, Nat.mul_comm, pow_mul]
        norm_num
      _ ≤ 1024 ^ n := by gcongr; norm_num
      _ = 2 ^ (10 * (n : Int)) := by
        rw [zpow_mul, zpow_natCast]
        norm_num
      _ ≤ 2 ^ (3 * (e - 2)) := zpow_le_zpow_right₀ (by norm_num) h
      _ = (2 ^ (e - 2)) ^ 3 := by
        rw [← zpow_natCast, ← zpow_mul, mul_comm]
        rfl
  · obtain ⟨n, hn⟩ := Int.eq_ofNat_of_zero_le (Int.neg_nonneg_of_nonpos hj)
    obtain rfl : j = -n := by omega
    refine le_of_pow_le_pow_left₀ (by decide : 28 ≠ 0) hpos ?_
    calc ((10 : ℚ) ^ (-(n : Int))) ^ 28
      _ = ((10 ^ 28) ^ n)⁻¹ := by
        rw [zpow_neg, zpow_natCast, inv_pow, ← pow_mul, Nat.mul_comm, pow_mul]
      _ ≤ ((2 ^ 93) ^ n)⁻¹ := by gcongr; norm_num
      _ = 2 ^ (93 * -(n : Int)) := by
        rw [zpow_mul, zpow_neg, zpow_natCast]
        rfl
      _ ≤ 2 ^ (28 * (e - 2)) := zpow_le_zpow_right₀ (by norm_num) h'
      _ = (2 ^ (e - 2)) ^ 28 := by
        rw [← zpow_natCast, ← zpow_mul, mul_comm]
        rfl

/-- The digits with which a number is written stand for a number that is rounded to it. -/
theorem roundsTo_shortest {negative : Bool} (tie : Tie) (hm : 0 < m)
    (h : (finite negative m e).IsCanonical) :
    RoundsTo ((shortest tie m e).1 * 10 ^ (shortest tie m e).2) m e := by
  obtain ⟨hbits, -, hleast, hgreatest⟩ := h
  have hsize : m.log2 ≤ 52 := by
    have := (Nat.log2_lt hm.ne').2 hbits
    omega
  let size : Int := (m.log2 + 1 + e) * 30103 / 100000 + 1
  let grids := (List.range 24).map (size - Int.ofNat ·)
  -- The last grid is narrow enough.
  have hnarrow : (10 : ℚ) ^ (size - 23) ≤ 2 ^ (e - 2) := by
    refine ten_zpow_le ?_ ?_ <;> omega
  have hlast : size - 23 ∈ grids := List.mem_map.2 ⟨23, by decide, rfl⟩
  have hfound : (grids.findSome? fun k => (onGrid? tie m e k).map (·, k)).isSome := by
    rw [List.findSome?_isSome_iff]
    exact ⟨_, hlast, by simpa using onGrid?_isSome tie hm hnarrow⟩
  obtain ⟨found, hfound⟩ := Option.isSome_iff_exists.1 hfound
  have hshortest : shortest tie m e = found := by
    show (grids.findSome? fun k => (onGrid? tie m e k).map (·, k)).getD (0, 0) = found
    rw [hfound]
    rfl
  obtain ⟨k, -, hk⟩ := List.exists_of_findSome?_eq_some hfound
  obtain ⟨d, hd, rfl⟩ := Option.map_eq_some_iff.1 hk
  rw [hshortest]
  exact roundsTo_of_onGrid? hd

end PipelineScript.Number.Binary64
