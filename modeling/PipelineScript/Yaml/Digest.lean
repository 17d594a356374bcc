import PipelineScript.Yaml.Value

/-!
# Digests of values

A digest is a number that equal values have in common and that different values hardly ever share.
It tells quickly that the keys of a mapping differ: `distinct` sorts values by their digests, bit by
bit, and compares only those that end up together.  The main statement is `distinct_iff`: no two of
the values are equal.
-/

namespace PipelineScript.Yaml

open Number (Binary64)

namespace Value

/-- Mixes a number into a digest. -/
def mix (h x : UInt64) : UInt64 :=
  let h := (h ^^^ x) * 0x9E3779B97F4A7C15
  h ^^^ (h >>> 32)

/-- Mixes a text into a digest. -/
def mixText (h : UInt64) (s : String) : UInt64 :=
  s.toList.foldl (fun h c => mix h c.val.toUInt64) h

/-- Mixes an integer into a digest. -/
def mixInt (h : UInt64) : Int → UInt64
  | .ofNat n => mix h n.toUInt64
  | .negSucc n => mix (mix h 1) n.toUInt64

/-- The digest of a floating point number, which is that of no sign for a zero. -/
def realDigest : Binary64 → UInt64
  | .finite _ 0 _ => 1
  | .finite negative (m + 1) e => mixInt (mix (if negative then 3 else 2) (m + 1).toUInt64) e
  | .infinite negative => if negative then 5 else 4
  | .nan => 6

mutual

/-- The digest of a value. -/
def digest : Value → UInt64
  | null => mix 0 0
  | bool b => mix 1 (if b then 1 else 0)
  | integer n => mixInt 2 n
  | real x => mix 3 (realDigest x)
  | text s => mixText 4 s
  | sequence items => mixItems 5 items
  | mapping entries => mix 6 (digestOfEntries entries)
  | tagged name v => mix (mixText 7 name) (digest v)

/-- Mixes the items of a sequence into a digest. -/
def mixItems (h : UInt64) : List Value → UInt64
  | [] => h
  | v :: vs => mixItems (mix h (digest v)) vs

/-- The digest of the entries of a mapping in any order. -/
def digestOfEntries : List (Value × Value) → UInt64
  | [] => 0
  | (k, v) :: es => mix (digest k) (digest v) + digestOfEntries es

end

/-- Equal numbers have one digest. -/
private theorem realDigest_eq {x y : Binary64} (h : x.same y) : realDigest x = realDigest y := by
  unfold Binary64.same at h
  split at h
  · rfl
  · rw [eq_of_beq h]

/-- An entry can be taken out of a list of entries. -/
private theorem digestOfEntries_eraseP {p : Value × Value → Bool} {d : UInt64}
    {bs : List (Value × Value)} (h : bs.any p) (hd : ∀ b, p b → mix (digest b.1) (digest b.2) = d) :
    digestOfEntries bs = d + digestOfEntries (bs.eraseP p) := by
  induction bs with
  | nil => simp at h
  | cons b bs ih =>
    obtain ⟨k, v⟩ := b
    by_cases hb : p (k, v)
    · simp [hb, digestOfEntries, ← hd _ hb]
    · simp only [List.any_cons, hb, Bool.false_or] at h
      simp only [List.eraseP_cons, hb, cond_false, digestOfEntries, ih h]
      ac_rfl

mutual

/-- Equal values have one digest. -/
theorem digest_eq : ∀ {a b : Value}, a.same b → a.digest = b.digest
  | null, b, h => by cases b <;> simp_all [same]
  | bool _, b, h => by cases b <;> simp_all [same]
  | integer _, b, h => by cases b <;> simp_all [same]
  | real _, b, h => by
    cases b <;> simp only [same, Bool.false_eq_true] at h
    simp [digest, realDigest_eq h]
  | text _, b, h => by cases b <;> simp_all [same]
  | sequence items, b, h => by
    cases b <;> simp only [same, Bool.false_eq_true] at h
    simp [digest, mixItems_eq h]
  | mapping entries, b, h => by
    cases b <;> simp only [same, Bool.false_eq_true] at h
    simp [digest, digestOfEntries_eq h]
  | tagged name v, b, h => by
    cases b <;> simp only [same, Bool.false_eq_true, Bool.and_eq_true, beq_iff_eq] at h
    simp [digest, h.1, digest_eq h.2]

private theorem mixItems_eq : ∀ {as bs : List Value} {h : UInt64}, sameItems as bs →
    mixItems h as = mixItems h bs
  | [], bs, _, h => by cases bs <;> simp_all [sameItems]
  | a :: as, bs, _, h => by
    cases bs <;> simp only [sameItems, Bool.false_eq_true, Bool.and_eq_true] at h
    simp [mixItems, digest_eq h.1, mixItems_eq h.2]

private theorem digestOfEntries_eq : ∀ {es bs : List (Value × Value)}, sameEntries es bs →
    digestOfEntries es = digestOfEntries bs
  | [], bs, h => by simp_all [sameEntries]
  | (k, v) :: es, bs, h => by
    simp only [sameEntries, Bool.and_eq_true] at h
    rw [digestOfEntries, digestOfEntries_eq h.2, digestOfEntries_eraseP h.1]
    intro b hb
    simp only [Bool.and_eq_true] at hb
    rw [digest_eq hb.1, digest_eq hb.2]

end

/-! ### Distinct values -/

/-- Two values differ, given with their digests. -/
def Differ (a b : UInt64 × Value) : Prop :=
  a.1 = b.1 → a.2.same b.2 = false

instance : DecidableRel Differ := fun a b =>
  inferInstanceAs (Decidable (a.1 = b.1 → a.2.same b.2 = false))

/-- No two of the values, which come with their digests, are equal; the digests are told apart by
their first `bits` bits. -/
def distinctFrom : Nat → List (UInt64 × Value) → Bool
  | _, [] | _, [_] => true
  | 0, vs => vs.Pairwise Differ
  | bits + 1, vs =>
    let isHigh (a : UInt64 × Value) : Bool := (a.1 >>> bits.toUInt64) % 2 = 1
    distinctFrom bits (vs.filter isHigh) && distinctFrom bits (vs.filter (!isHigh ·))

/-- No two of the values are equal. -/
def distinct (vs : List Value) : Bool :=
  distinctFrom 64 (vs.map fun v => (v.digest, v))

private theorem pairwise_filter_iff {α : Type} {r : α → α → Prop} {p : α → Bool} {xs : List α}
    (h : ∀ a b, p a ≠ p b → r a b) :
    (xs.filter p).Pairwise r ∧ (xs.filter (!p ·)).Pairwise r ↔ xs.Pairwise r := by
  rw [List.pairwise_filter, List.pairwise_filter, ← List.pairwise_and_iff]
  refine List.Pairwise.iff fun a b => ?_
  have := h a b
  cases ha : p a <;> cases hb : p b <;> simp_all

private theorem distinctFrom_iff {bits : Nat} {vs : List (UInt64 × Value)} :
    distinctFrom bits vs ↔ vs.Pairwise Differ := by
  fun_induction distinctFrom bits vs with
  | case1 => simp
  | case2 => simp
  | case3 => simp
  | case4 bits vs _ _ isHigh ih₁ ih₂ =>
    rw [Bool.and_eq_true, ih₁, ih₂]
    exact pairwise_filter_iff fun a b hne he => absurd (by simp [isHigh, he]) hne

private theorem differ_iff {a b : Value} :
    Differ (a.digest, a) (b.digest, b) ↔ a.same b = false :=
  ⟨fun h => Bool.eq_false_iff.2 fun hs => Bool.eq_false_iff.1 (h (digest_eq hs)) hs,
    fun h _ => h⟩

/-- The check finds exactly the lists of which no two values are equal. -/
theorem distinct_iff {vs : List Value} :
    distinct vs ↔ vs.Pairwise fun a b => a.same b = false := by
  rw [distinct, distinctFrom_iff, List.pairwise_map]
  exact List.Pairwise.iff fun _ _ => differ_iff

end Value

end PipelineScript.Yaml
