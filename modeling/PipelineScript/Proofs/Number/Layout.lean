import Mathlib.Tactic.FieldSimp
import Mathlib.Tactic.Ring
import PipelineScript.Number.Layout
import PipelineScript.Proofs.Number.Decimal
import PipelineScript.Proofs.Number.Shortest

/-!
# Numbers that are written

However the digits of a number are laid out, the text is read as the decimal that the digits stand
for. So different numbers are written differently.
-/

namespace PipelineScript.Number

/-- Taking zeros from the end does not change the number that digits stand for. -/
theorem stripZeros_value (bound d : Nat) (k : Int) :
    ((stripZeros bound d k).1 : ℚ) * 10 ^ (stripZeros bound d k).2 = d * 10 ^ k := by
  induction bound generalizing d k with
  | zero => rfl
  | succ bound ih =>
    rw [stripZeros]
    split_ifs with h
    · have hd : (d : ℚ) = 10 * (d / 10 : ℕ) := by exact_mod_cast (by omega : d = 10 * (d / 10))
      rw [ih, hd, zpow_add₀ (by norm_num)]
      ring
    · rfl

namespace Decimal

variable {cs ds : List Char} {x : ℚ}

theorem digitsValue_zeros_append (n : Nat) (ds : List Char) :
    digitsValue (List.replicate n '0' ++ ds) = digitsValue ds := by
  rw [digitsValue_eq, Nat.ofDigitChars_append, Nat.ofDigitChars_replicate_zero, Nat.mul_zero,
    digitsValue_eq]

theorem digitsValue_append_zeros (n : Nat) (ds : List Char) :
    digitsValue (ds ++ List.replicate n '0') = 10 ^ n * digitsValue ds := by
  rw [digitsValue_eq, Nat.ofDigitChars_append, Nat.ofDigitChars_replicate_zero, digitsValue_eq]

theorem isDigit_of_mem_zeros (n : Nat) {c : Char} (hc : c ∈ List.replicate n '0') :
    c.isDigit = true := by
  rw [List.eq_of_mem_replicate hc]
  decide

/-- The text is a numeral, and without a sign its number is `x`. -/
def StandsFor (cs : List Char) (x : ℚ) : Prop :=
  ∀ negative, ∃ y : Decimal, unsigned? negative cs = some y ∧ y.negative = negative ∧ y.value = x

theorem standsFor_point {whole fraction : List Char} (hne : whole ≠ [])
    (hwhole : ∀ c ∈ whole, c.isDigit = true) (hfraction : ∀ c ∈ fraction, c.isDigit = true) :
    StandsFor (whole ++ '.' :: fraction)
      (digitsValue (whole ++ fraction) * 10 ^ (-(fraction.length : Int))) := by
  intro negative
  have hend : ∀ c ∈ ([] : List Char).head?, c.isDigit = false := by simp
  have hread := unsigned?_point negative hne hwhole hfraction hend
  rw [List.append_nil] at hread
  exact ⟨_, hread, rfl, by simp [value]⟩

/-- A sign in front of a numeral is read. -/
theorem StandsFor.read? (h : StandsFor cs x) (negative : Bool) :
    ∃ y : Decimal, read? (if negative then '-' :: cs else cs) = some y ∧ y.negative = negative ∧
      y.value = x := by
  obtain ⟨y, hy, hnegative, hvalue⟩ := h negative
  refine ⟨y, ?_, hnegative, hvalue⟩
  cases negative with
  | true => exact hy
  | false =>
    -- No sign is in front of the numeral itself.
    cases cs with
    | nil => exact hy
    | cons c cs =>
      rw [if_neg (by decide), Decimal.read?]
      · exact hy
      · rintro cs' ⟨⟩
        cases hy

end Decimal

namespace Layout

open Decimal

section Digits

variable {ds : List Char} (hne : ds ≠ []) (h : ∀ c ∈ ds, c.isDigit = true) (p : Int)
include h

/-- A point and zeros in front of digits. -/
theorem standsFor_zeros_append (n : Nat) :
    StandsFor ("0.".toList ++ List.replicate n '0' ++ ds)
      (digitsValue ds * 10 ^ (-(n : Int) - ds.length)) := by
  have hfraction : ∀ c ∈ List.replicate n '0' ++ ds, c.isDigit = true := by
    intro c hc
    exact (List.mem_append.1 hc).elim (isDigit_of_mem_zeros n) (h c)
  have hstands :=
    standsFor_point (List.cons_ne_nil '0' []) (fun _ => isDigit_of_mem_zeros 1) hfraction
  have hvalue : digitsValue (['0'] ++ (List.replicate n '0' ++ ds)) = digitsValue ds := by
    rw [← List.append_assoc]
    exact digitsValue_zeros_append (n + 1) ds
  have hlength : -(n : Int) - ds.length = -((List.replicate n '0' ++ ds).length : Int) := by
    rw [List.length_append, List.length_replicate]
    omega
  rw [hvalue, ← hlength] at hstands
  rw [List.append_assoc]
  exact hstands

include hne

/-- Zeros, a point and another zero behind digits. -/
theorem standsFor_append_zeros (n : Nat) :
    StandsFor (ds ++ List.replicate n '0' ++ ".0".toList) (digitsValue ds * 10 ^ (n : Int)) := by
  have hwhole : ∀ c ∈ ds ++ List.replicate n '0', c.isDigit = true := by
    intro c hc
    exact (List.mem_append.1 hc).elim (h c) (isDigit_of_mem_zeros n)
  have hstands := standsFor_point (List.append_ne_nil_of_left_ne_nil hne _) hwhole
    fun _ => isDigit_of_mem_zeros 1
  have hvalue : (digitsValue (ds ++ List.replicate n '0' ++ List.replicate 1 '0') : ℚ) *
      10 ^ (-1 : Int) = digitsValue ds * 10 ^ (n : Int) := by
    rw [List.append_assoc, List.replicate_append_replicate, digitsValue_append_zeros]
    push_cast
    rw [pow_succ, zpow_natCast]
    ring
  rw [← hvalue]
  exact hstands

/-- A point among digits. -/
theorem standsFor_take_drop {n : Nat} (hn : 0 < n) (hlt : n < ds.length) :
    StandsFor (ds.take n ++ '.' :: ds.drop n)
      (digitsValue ds * 10 ^ ((n : Int) - ds.length)) := by
  have htake : ∀ c ∈ ds.take n, c.isDigit = true := fun c hc => h c (List.mem_of_mem_take hc)
  have hdrop : ∀ c ∈ ds.drop n, c.isDigit = true := fun c hc => h c (List.mem_of_mem_drop hc)
  have hfirst : ds.take n ≠ [] := by
    rw [Ne, List.take_eq_nil_iff, not_or]
    exact ⟨hn.ne', hne⟩
  have hstands := standsFor_point hfirst htake hdrop
  have hlength : (n : Int) - ds.length = -((ds.drop n).length : Int) := by
    rw [List.length_drop]
    omega
  rw [List.take_append_drop, ← hlength] at hstands
  exact hstands

theorem standsFor_positional :
    StandsFor (positional ds p) (digitsValue ds * 10 ^ (p - ds.length)) := by
  rw [positional]
  split_ifs with hsmall hlong
  · have hp : p = -((-p).toNat : Int) := by omega
    rw [hp, Int.neg_neg, Int.toNat_natCast]
    exact standsFor_zeros_append h _
  · have hp : p - ds.length = (p.toNat - ds.length : Nat) := by omega
    rw [hp]
    exact standsFor_append_zeros hne h _
  · have hp : p = (p.toNat : Int) := by omega
    rw [hp, Int.toNat_natCast]
    exact standsFor_take_drop hne h (by omega) (by omega)

theorem standsFor_scientific :
    StandsFor (scientific ds p) (digitsValue ds * 10 ^ (p - ds.length)) := by
  intro negative
  have hread := exponent?_toString (p - 1)
  have hend : ∀ c ∈ ('e' :: (toString (p - 1)).toList).head?, c.isDigit = false ∧ c ≠ '.' := by
    simp
  match ds, hne with
  | [d], _ =>
    have hnumeral := unsigned?_whole negative (List.cons_ne_nil d []) h hend
    rw [hread] at hnumeral
    exact ⟨_, hnumeral, rfl, rfl⟩
  | d :: d' :: ds', _ =>
    have hwhole : ∀ c ∈ [d], c.isDigit = true := fun c hc => h c (by simp_all)
    have hfraction : ∀ c ∈ d' :: ds', c.isDigit = true :=
      fun c hc => h c (List.mem_cons_of_mem d hc)
    have hnumeral := unsigned?_point negative (List.cons_ne_nil d []) hwhole hfraction
      fun c hc => (hend c hc).1
    rw [hread] at hnumeral
    have hlength : p - 1 - ((d' :: ds').length : Int) = p - (d :: d' :: ds').length := by
      simp only [List.length_cons]
      omega
    rw [Option.map_some, hlength] at hnumeral
    exact ⟨_, hnumeral, rfl, rfl⟩

end Digits

/-- The text of a positive number stands for its shortest digits. -/
theorem standsFor_magnitude (l : Layout) {m : Nat} (hm : 0 < m) (e : Int) :
    StandsFor (l.magnitude m e)
      ((Binary64.shortest l.tie m e).1 * 10 ^ (Binary64.shortest l.tie m e).2) := by
  rw [magnitude, if_neg hm.ne']
  generalize Binary64.shortest l.tie m e = shortest
  obtain ⟨d, k⟩ := shortest
  have hstripped := stripZeros_value 24 d k
  generalize hr : stripZeros 24 d k = r at hstripped
  obtain ⟨d', k'⟩ := r
  have hdigits : ∀ c ∈ Nat.toDigits 10 d', c.isDigit = true :=
    fun c hc => isDigit_of_mem_toDigits hc
  have hvalue : (digitsValue (Nat.toDigits 10 d') : ℚ) *
      10 ^ ((Nat.toDigits 10 d').length + k' - (Nat.toDigits 10 d').length) = d * 10 ^ k := by
    rw [digitsValue_eq, Nat.ofDigitChars_ten_toDigits, add_sub_cancel_left]
    exact hstripped
  rw [← hvalue]
  simp only [hr]
  split_ifs
  · exact standsFor_positional Nat.toDigits_ne_nil hdigits _
  · exact standsFor_scientific Nat.toDigits_ne_nil hdigits _

/-- A finite number of a document is read as a decimal that is rounded to it. -/
theorem read?_write_finite {negative : Bool} {m : Nat} {e : Int}
    (h : (Binary64.finite negative m e).IsCanonical) :
    ∃ y : Decimal, read? (document.write (.finite negative m e)).toList = some y ∧
      y.negative = negative ∧ (m = 0 ∧ y.value = 0 ∨ 0 < m ∧ Binary64.RoundsTo y.value m e) := by
  have hwrite : (document.write (.finite negative m e)).toList =
      if negative then '-' :: document.magnitude m e else document.magnitude m e := by
    rw [write, String.toList_ofList]
  rw [hwrite]
  rcases Nat.eq_zero_or_pos m with rfl | hm
  · have hzero : StandsFor (document.magnitude 0 e) 0 := fun negative =>
      ⟨⟨negative, 0, -1⟩, by rfl, rfl, by simp [value]⟩
    obtain ⟨y, hy, hnegative, hvalue⟩ := hzero.read? negative
    exact ⟨y, hy, hnegative, .inl ⟨rfl, hvalue⟩⟩
  · obtain ⟨y, hy, hnegative, hvalue⟩ := (standsFor_magnitude document hm e).read? negative
    exact ⟨y, hy, hnegative, .inr ⟨hm, hvalue ▸ Binary64.roundsTo_shortest _ hm h⟩⟩

/-- A point or an exponent is in the text of each number. -/
theorem exists_mark_mem_write (x : Binary64) :
    ∃ c ∈ (document.write x).toList, c = '.' ∨ c = 'e' := by
  have hpositional (ds : List Char) (p : Int) : '.' ∈ positional ds p := by
    rw [positional]
    split_ifs <;> simp
  have hscientific (ds : List Char) (p : Int) : 'e' ∈ scientific ds p := by
    rw [scientific.eq_def]
    dsimp only
    split <;> simp
  cases x with
  | finite negative m e =>
    have hmagnitude : ∃ c ∈ document.magnitude m e, c = '.' ∨ c = 'e' := by
      rw [magnitude]
      split_ifs
      · exact ⟨'.', by decide, .inl rfl⟩
      · dsimp only
        split_ifs
        · exact ⟨'.', hpositional _ _, .inl rfl⟩
        · exact ⟨'e', hscientific _ _, .inr rfl⟩
    obtain ⟨c, hc, hmark⟩ := hmagnitude
    refine ⟨c, ?_, hmark⟩
    rw [write, String.toList_ofList]
    split_ifs
    · exact List.mem_cons_of_mem _ hc
    · exact hc
  | infinite negative => cases negative <;> exact ⟨'.', by decide, .inl rfl⟩
  | nan => exact ⟨'.', by decide, .inl rfl⟩

/-- The texts of the finite numbers are numerals, and those of the others are not. -/
theorem isSome_read?_write {x : Binary64} (hx : x.IsCanonical) :
    (read? (document.write x).toList).isSome = x.isFinite := by
  cases x with
  | finite negative m e =>
    obtain ⟨a, ha, -⟩ := read?_write_finite hx
    rw [ha]
    rfl
  | infinite negative => cases negative <;> decide
  | nan => decide

theorem eq_of_write_finite {negative negative' : Bool} {m m' : Nat} {e e' : Int}
    (h : (Binary64.finite negative m e).IsCanonical)
    (h' : (Binary64.finite negative' m' e').IsCanonical)
    (hwrite : document.write (.finite negative m e) = document.write (.finite negative' m' e')) :
    Binary64.finite negative m e = .finite negative' m' e' := by
  obtain ⟨a, ha, hnegative, hvalue⟩ := read?_write_finite h
  obtain ⟨b, hb, hnegative', hvalue'⟩ := read?_write_finite h'
  rw [hwrite] at ha
  obtain rfl : a = b := Option.some.inj (ha.symm.trans hb)
  obtain rfl : negative = negative' := hnegative.symm.trans hnegative'
  rcases hvalue with ⟨rfl, hzero⟩ | ⟨hm, hrounds⟩
  · rcases hvalue' with ⟨rfl, -⟩ | ⟨hm', hrounds'⟩
    · -- Zero has the least exponent only.
      obtain ⟨-, hleast, -⟩ := h
      obtain ⟨-, hleast', -⟩ := h'
      obtain rfl : e = e' := by omega
      rfl
    · exact absurd hzero (hrounds'.pos hm').ne'
  · rcases hvalue' with ⟨rfl, hzero⟩ | ⟨-, hrounds'⟩
    · exact absurd hzero (hrounds.pos hm).ne'
    · obtain ⟨rfl, rfl⟩ := hrounds.unique h h' hrounds'
      rfl

/-- Different numbers of a document are written differently. -/
theorem write_injective {x y : Binary64} (hx : x.IsCanonical) (hy : y.IsCanonical)
    (h : document.write x = document.write y) : x = y := by
  have hfinite : x.isFinite = y.isFinite := by
    rw [← isSome_read?_write hx, h, isSome_read?_write hy]
  cases x with
  | finite negative m e =>
    cases y with
    | finite negative' m' e' => exact eq_of_write_finite hx hy h
    | _ => cases hfinite
  | infinite negative =>
    cases y with
    | finite negative' m' e' => cases hfinite
    | infinite negative' =>
      revert h
      cases negative <;> cases negative' <;> decide
    | nan =>
      revert h
      cases negative <;> decide
  | nan =>
    cases y with
    | finite negative' m' e' => cases hfinite
    | infinite negative' =>
      revert h
      cases negative' <;> decide
    | nan => rfl

end Layout

end PipelineScript.Number
