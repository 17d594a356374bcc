import Mathlib.Data.List.Forall2
import PipelineScript.Proofs.Number.Binary64
import PipelineScript.Yaml.Resolution

/-!
# Values of documents

Resolution makes a value of a document piece by piece. Its numbers are rounded, and a mapping is
made only of entries of which no two keys are equal, however deep it stands.
-/

namespace PipelineScript.Yaml

open Number (Binary64)

/-- The numbers of a value are canonical, and no two keys of a mapping in it are equal. -/
inductive Value.IsResolved : Value → Prop
  | null : IsResolved .null
  | bool (b : Bool) : IsResolved (.bool b)
  | integer (n : Int) : IsResolved (.integer n)
  | real {x : Binary64} (h : x.IsCanonical) : IsResolved (.real x)
  | text (s : String) : IsResolved (.text s)
  | sequence {items : List Value} (h : ∀ v ∈ items, IsResolved v) : IsResolved (.sequence items)
  | mapping {entries : List (Value × Value)} (hkeys : ∀ e ∈ entries, IsResolved e.1)
      (hvalues : ∀ e ∈ entries, IsResolved e.2)
      (hdistinct : (entries.map Prod.fst).Pairwise fun a b => a.same b = false) :
      IsResolved (.mapping entries)
  | tagged (name : String) {v : Value} (h : IsResolved v) : IsResolved (.tagged name v)

/-- The value `p` is the whole value, or it is found in an item, in the value of an entry or under a
tag. -/
inductive Value.IsPartOf (p : Value) : Value → Prop
  | self : IsPartOf p p
  | item {items : List Value} {v : Value} (hv : v ∈ items) (h : IsPartOf p v) :
      IsPartOf p (.sequence items)
  | value {entries : List (Value × Value)} {e : Value × Value} (he : e ∈ entries)
      (h : IsPartOf p e.2) : IsPartOf p (.mapping entries)
  | content (name : String) {v : Value} (h : IsPartOf p v) : IsPartOf p (.tagged name v)

theorem Value.IsResolved.of_isPartOf {p v : Value} (hv : v.IsResolved) (h : p.IsPartOf v) :
    p.IsResolved := by
  induction h with
  | self => exact hv
  | item hv' _ ih =>
    cases hv with
    | sequence hitems => exact ih (hitems _ hv')
  | value he _ ih =>
    cases hv with
    | mapping _ hvalues _ => exact ih (hvalues _ he)
  | content name _ ih =>
    cases hv with
    | tagged _ hv => exact ih hv

/-! ### Scalars -/

theorem isCanonical_of_real? {s : String} {x : Binary64} (h : real? s = some x) :
    x.IsCanonical := by
  have hfinite {cs : List Char} (h : finiteNumber? cs = some x) : x.IsCanonical := by
    rw [finiteNumber?, Option.filter_eq_some_iff, Option.map_eq_some_iff] at h
    obtain ⟨⟨a, -, rfl⟩, -⟩ := h
    exact Binary64.isCanonical_ofDecimal a
  rw [real?] at h
  split_ifs at h
  · cases h
    trivial
  · cases h
    trivial
  · cases h
    trivial
  · split at h
    · cases h
    · exact hfinite h
    · exact hfinite h

theorem isResolved_of_ofInteger? {n : Option Int} {v : Value}
    (h : n.bind ofInteger? = some (.ok v)) : v.IsResolved := by
  obtain ⟨n, -, h⟩ := Option.bind_eq_some_iff.1 h
  rw [ofInteger?] at h
  split_ifs at h
  · cases h
    exact .integer n
  · cases h

theorem isResolved_of_numberValue {s : String} {v : Value} (h : numberValue s = .ok v) :
    v.IsResolved := by
  rw [numberValue] at h
  split at h
  · rename_i hinteger
    rw [h] at hinteger
    exact isResolved_of_ofInteger? hinteger
  · split at h
    · rename_i hreal
      cases h
      split_ifs at hreal
      exact .real (isCanonical_of_real? hreal)
    · cases h
      exact .text s

theorem isResolved_wordValue (s : String) : (wordValue s).IsResolved := by
  rw [wordValue]
  split_ifs
  · exact .null
  · split
    · exact .bool _
    · exact .text s

theorem isResolved_of_plainValue {s : String} {v : Value} (h : plainValue s = .ok v) :
    v.IsResolved := by
  rw [plainValue] at h
  split at h
  · cases h
    exact .null
  · split_ifs at h
    · exact isResolved_of_numberValue h
    · cases h
      exact isResolved_wordValue s

theorem isResolved_of_read {s : String} {type : CoreType} {v : Value} (h : type.read s = .ok v) :
    v.IsResolved := by
  cases type with
  | bool =>
    simp only [CoreType.read] at h
    split at h
    · cases h
      exact .bool _
    · cases h
  | integer =>
    simp only [CoreType.read] at h
    split at h
    · rename_i hinteger
      rw [h] at hinteger
      exact isResolved_of_ofInteger? hinteger
    · cases h
  | real =>
    simp only [CoreType.read] at h
    split at h
    · rename_i hreal
      cases h
      exact .real (isCanonical_of_real? hreal)
    · cases h
  | null =>
    simp only [CoreType.read] at h
    split_ifs at h
    cases h
    exact .null

theorem Value.IsResolved.withTag {v : Value} (h : v.IsResolved) (tag : Option Tag) :
    (v.withTag tag).IsResolved := by
  rw [Value.withTag]
  split
  · exact .tagged _ h
  · exact h

theorem Scalar.isResolved_of_untaggedValue {s : Scalar} {v : Value}
    (h : s.untaggedValue = .ok v) : v.IsResolved := by
  rw [untaggedValue] at h
  split_ifs at h
  · exact isResolved_of_plainValue h
  · cases h
    exact .text s.text

theorem Scalar.isResolved_of_value {s : Scalar} {v : Value} (h : s.value = .ok v) :
    v.IsResolved := by
  rw [value] at h
  split at h
  · exact isResolved_of_untaggedValue h
  · split at h
    · exact isResolved_of_read h
    · split_ifs at h
      · cases huntagged : s.untaggedValue with
        | error e =>
          rw [huntagged] at h
          cases h
        | ok w =>
          rw [huntagged] at h
          cases h
          exact (isResolved_of_untaggedValue huntagged).withTag _
      · cases h
        exact .text s.text

/-! ### Trees -/

section Resolving

variable {α β : Type} {x : Resolving α} {f : α → Resolving β} {n n' : Nat}

theorem Resolving.bind_eq_ok {b : β} :
    (x >>= f) n = .ok (b, n') ↔ ∃ a m, x n = .ok (a, m) ∧ f a m = .ok (b, n') := by
  show (x n >>= fun r => f r.1 r.2) = _ ↔ _
  cases x n with
  | error e => simp [Bind.bind, Except.bind]
  | ok r =>
    obtain ⟨a, m⟩ := r
    simp [Bind.bind, Except.bind]

theorem Resolving.of_liftM {x : Except Fault α} {a : α}
    (h : (liftM x : Resolving α) n = .ok (a, n')) : x = .ok a := by
  cases x with
  | error e => cases h
  | ok b =>
    cases h
    rfl

/-- The results of a list belong to its elements, one by one. -/
theorem Resolving.forall₂_of_mapM {as : List α} {bs : List β} (h : as.mapM f n = .ok (bs, n')) :
    List.Forall₂ (fun a b => ∃ m m', f a m = .ok (b, m')) as bs := by
  induction as generalizing bs n with
  | nil =>
    cases h
    exact .nil
  | cons a as ih =>
    rw [List.mapM_cons, Resolving.bind_eq_ok] at h
    obtain ⟨b, m, hb, h⟩ := h
    rw [Resolving.bind_eq_ok] at h
    obtain ⟨bs', m', hbs, h⟩ := h
    cases h
    exact .cons ⟨n, m, hb⟩ (ih hbs)

theorem forall_mem_of_forall₂ {R : α → β → Prop} {P : β → Prop} {as : List α} {bs : List β}
    (hR : ∀ {a b}, R a b → P b) (h : List.Forall₂ R as bs) : ∀ b ∈ bs, P b := by
  induction h with
  | nil => simp
  | cons hab _ ih => exact List.forall_mem_cons.2 ⟨hR hab, ih⟩

end Resolving

/-- A tree is resolved to a value, however many aliases may be followed. -/
def Document.Resolves (d : Document) (depth : Nat) (t : Tree) (v : Value) : Prop :=
  ∃ n n', d.resolve depth t n = .ok (v, n')

/-- The value that is made of a tree that is no alias. -/
inductive Document.Makes (d : Document) : Nat → Tree → Value → Prop
  | scalar {depth : Nat} {anchor : Option Nat} {s : Scalar} {v : Value} (h : s.value = .ok v) :
      Makes d depth (.scalar anchor s) v
  | sequence {depth : Nat} {anchor : Option Nat} {tag : Option Tag} {items : List Tree}
      {vs : List Value} (h : List.Forall₂ (d.Resolves depth) items vs) :
      Makes d (depth + 1) (.sequence anchor tag items) (.withTag tag (.sequence vs))
  | mapping {depth : Nat} {anchor : Option Nat} {tag : Option Tag} {entries : List (Tree × Tree)}
      {es : List (Value × Value)} (hkeys : Value.distinct (es.map Prod.fst))
      (h : List.Forall₂ (fun e e' => d.Resolves depth e.1 e'.1 ∧ d.Resolves depth e.2 e'.2)
        entries es) :
      Makes d (depth + 1) (.mapping anchor tag entries) (.withTag tag (.mapping es))

section Resolve

variable {d : Document} {depth : Nat} {t : Tree} {v : Value}

/-- All that a tree can be resolved to. -/
theorem Document.Resolves.makes (h : d.Resolves depth t v) :
    ∃ t' n n', d.follow t n = .ok (t', n') ∧ d.Makes depth t' v := by
  obtain ⟨n, n', h⟩ := h
  cases depth with
  | zero =>
    rw [resolve, Resolving.bind_eq_ok] at h
    obtain ⟨t', m, hfollow, h⟩ := h
    refine ⟨t', n, m, hfollow, ?_⟩
    cases t' with
    | scalar anchor s => exact .scalar (Resolving.of_liftM h)
    | sequence anchor tag items => cases h
    | mapping anchor tag entries => cases h
    | reference anchor => cases h
  | succ depth =>
    rw [resolve, Resolving.bind_eq_ok] at h
    obtain ⟨t', m, hfollow, h⟩ := h
    refine ⟨t', n, m, hfollow, ?_⟩
    cases t' with
    | scalar anchor s => exact .scalar (Resolving.of_liftM h)
    | sequence anchor tag items =>
      obtain ⟨vs, m', hvs, h⟩ := Resolving.bind_eq_ok.1 h
      cases h
      exact .sequence (Resolving.forall₂_of_mapM hvs)
    | mapping anchor tag entries =>
      obtain ⟨es, m', hes, h⟩ := Resolving.bind_eq_ok.1 h
      obtain ⟨es', m'', hdistinct, h⟩ := Resolving.bind_eq_ok.1 h
      cases h
      have hdistinct := Resolving.of_liftM hdistinct
      rw [distinctEntries] at hdistinct
      split_ifs at hdistinct with hkeys
      cases hdistinct
      refine .mapping hkeys ((Resolving.forall₂_of_mapM hes).imp fun e e' he => ?_)
      obtain ⟨n, n', he⟩ := he
      obtain ⟨k, n₁, hk, he⟩ := Resolving.bind_eq_ok.1 he
      obtain ⟨w, n₂, hw, he⟩ := Resolving.bind_eq_ok.1 he
      cases he
      exact ⟨⟨_, _, hk⟩, ⟨_, _, hw⟩⟩
    | reference anchor => cases h

/-- Nothing but a resolved value is made of a tree. -/
theorem Document.Resolves.isResolved (h : d.Resolves depth t v) : v.IsResolved := by
  induction depth using Nat.strongRecOn generalizing t v with
  | ind depth ih =>
    obtain ⟨t', -, -, -, hmakes⟩ := h.makes
    cases hmakes with
    | scalar hvalue => exact Scalar.isResolved_of_value hvalue
    | @sequence depth _ _ items vs hitems =>
      have hvs : ∀ w ∈ vs, w.IsResolved :=
        forall_mem_of_forall₂ (fun hw => ih depth (Nat.lt_succ_self depth) hw) hitems
      exact (Value.IsResolved.sequence hvs).withTag _
    | @mapping depth _ _ entries es hkeys hentries =>
      have hes : ∀ e ∈ es, e.1.IsResolved ∧ e.2.IsResolved :=
        forall_mem_of_forall₂ (fun he => ⟨ih depth (Nat.lt_succ_self depth) he.1,
          ih depth (Nat.lt_succ_self depth) he.2⟩) hentries
      exact (Value.IsResolved.mapping (fun e he => (hes e he).1) (fun e he => (hes e he).2)
        (Value.distinct_iff.1 hkeys)).withTag _

end Resolve

/-- Nothing but a resolved value is read from a text. -/
theorem Value.isResolved_of_parse {text : String} {v : Value} (h : Value.parse text = .ok v) :
    v.IsResolved := by
  rw [Value.parse] at h
  cases hd : Document.parse text with
  | error e =>
    rw [hd] at h
    cases h
  | ok d =>
    rw [hd] at h
    have h : d.value = .ok v := h
    rw [Document.value] at h
    split at h
    · cases h
      exact .null
    · rename_i t _
      cases hr : (d.resolve maxNesting t).run d.aliasBound with
      | error e =>
        rw [hr] at h
        cases h
      | ok r =>
        rw [hr] at h
        cases h
        exact Document.Resolves.isResolved ⟨_, _, hr⟩

end PipelineScript.Yaml
