import Mathlib.Data.List.Nodup
import Mathlib.Data.String.Basic
import PipelineScript.Definition

/-!
# Bindings

Bindings are made of a list of entries, one by one from the end, and an entry gives way to one that
is there already. So of the entries with a name the last one counts, while a look-up in a mapping
finds the first. The names of bindings ascend, so an entry that has to give way to another is never
put in front of it.
-/

namespace PipelineScript

namespace Bindings

variable {b : Bindings} {name : String}

theorem ofEntries_cons (e : String × String) (es : List (String × String)) :
    ofEntries (e :: es) = (ofEntries es).insert e :=
  rfl

theorem lookup_cons_eq_or (e : String × String) (es : Bindings) (name : String) :
    List.lookup name (e :: es) = (List.lookup name [e]).or (es.lookup name) := by
  rw [← List.lookup_append, List.singleton_append]

theorem lookup_singleton_of_ne {e : String × String} (h : name ≠ e.1) :
    List.lookup name [e] = none :=
  List.lookup_eq_none_iff.2 <| List.forall_mem_singleton.2 (bne_iff_ne.2 h)

theorem eq_of_lookup_singleton {e : String × String} {value : String}
    (h : List.lookup name [e] = some value) : e = (name, value) := by
  obtain ⟨before, behind, hsplit, -⟩ := List.lookup_eq_some_iff.1 h
  exact (List.mem_singleton.1 (hsplit ▸ List.mem_append_right before List.mem_cons_self)).symm

/-! ### Names -/

private theorem isSome_lookup_cons (e : String × String) (es : Bindings) (name : String) :
    (List.lookup name (e :: es)).isSome = (name == e.1 || (es.lookup name).isSome) := by
  obtain ⟨k, v⟩ := e
  rw [List.lookup_cons]
  cases name == k <;> rfl

/-- Putting in an entry adds its name. -/
theorem isSome_lookup_insert (entry : String × String) (b : Bindings) (name : String) :
    ((b.insert entry).lookup name).isSome = (name == entry.1 || (b.lookup name).isSome) := by
  induction b with
  | nil => exact isSome_lookup_cons entry [] name
  | cons e es ih =>
    rw [insert]
    split_ifs with hlt heq
    · exact isSome_lookup_cons entry (e :: es) name
    · rw [isSome_lookup_cons, heq, ← Bool.or_assoc, Bool.or_self]
    · rw [isSome_lookup_cons, isSome_lookup_cons, ih, Bool.or_left_comm]

/-- The bindings of entries have the names of the entries. -/
theorem isSome_lookup_ofEntries (entries : List (String × String)) (name : String) :
    ((ofEntries entries).lookup name).isSome ↔ name ∈ entries.map Prod.fst := by
  induction entries with
  | nil => simp [ofEntries]
  | cons e es ih =>
    rw [ofEntries_cons, isSome_lookup_insert, Bool.or_eq_true, ih, List.map_cons, List.mem_cons,
      beq_iff_eq]

/-! ### Values -/

/-- Putting in an entry and changing the values may be done in either order. -/
theorem map_insert (g : String → String) (entry : String × String) (b : Bindings) :
    (b.insert entry).map (fun e => (e.1, g e.2)) =
      Bindings.insert (entry.1, g entry.2) (b.map fun e => (e.1, g e.2)) := by
  induction b with
  | nil => rfl
  | cons e es ih =>
    rw [insert, List.map_cons, insert]
    split_ifs <;> simp [ih]

theorem map_ofEntries (g : String → String) (entries : List (String × String)) :
    (ofEntries entries).map (fun e => (e.1, g e.2)) =
      ofEntries (entries.map fun e => (e.1, g e.2)) := by
  induction entries with
  | nil => rfl
  | cons e es ih => rw [ofEntries_cons, map_insert, ih, List.map_cons, ofEntries_cons]

/-- Changing the values of entries changes what is found. -/
theorem lookup_map {α β : Type} (g : α → β) (es : List (String × α)) (name : String) :
    List.lookup name (es.map fun e => (e.1, g e.2)) = (es.lookup name).map g := by
  induction es with
  | nil => rfl
  | cons e es ih =>
    obtain ⟨key, value⟩ := e
    rw [List.map_cons, List.lookup_cons, List.lookup_cons, ih]
    cases name == key <;> rfl

/-- A value that is found is an old one, or it was put in for the name. -/
theorem lookup_insert {name' value value' : String}
    (h : (b.insert (name, value)).lookup name' = some value') :
    b.lookup name' = some value' ∨ (name' = name ∧ value' = value) := by
  have hcons (es : Bindings) (hes : List.lookup name' ((name, value) :: es) = some value') :
      es.lookup name' = some value' ∨ (name' = name ∧ value' = value) := by
    rw [lookup_cons_eq_or, Option.or_eq_some_iff] at hes
    obtain hfirst | ⟨-, hrest⟩ := hes
    · cases eq_of_lookup_singleton hfirst
      exact .inr ⟨rfl, rfl⟩
    · exact .inl hrest
  induction b with
  | nil => exact hcons [] h
  | cons e es ih =>
    rw [insert] at h
    split_ifs at h with hlt heq
    · exact hcons (e :: es) h
    · exact .inl h
    · rw [lookup_cons_eq_or, Option.or_eq_some_iff] at h ⊢
      obtain hfirst | ⟨hnone, hrest⟩ := h
      · exact .inl (.inl hfirst)
      · exact (ih hrest).imp_left fun hold => .inr ⟨hnone, hold⟩

/-- An entry whose name had no value is found from then on, and all else is found as before. -/
theorem lookup_insert_of_none {entry : String × String} (h : b.lookup entry.1 = none)
    (name : String) :
    (b.insert entry).lookup name = (b.lookup name).or (List.lookup name [entry]) := by
  induction b with
  | nil => rfl
  | cons e es ih =>
    obtain ⟨hfirst, hrest⟩ := Option.or_eq_none_iff.1 (lookup_cons_eq_or e es entry.1 ▸ h)
    rw [insert]
    split_ifs with hlt heq
    · rw [lookup_cons_eq_or]
      by_cases hname : name = entry.1
      · rw [hname, h, Option.or_none, Option.none_or]
      · rw [lookup_singleton_of_ne hname, Option.or_none, Option.none_or]
    · obtain ⟨k, v⟩ := e
      rw [heq, List.lookup_cons_self] at hfirst
      cases hfirst
    · rw [lookup_cons_eq_or, ih hrest, lookup_cons_eq_or e es, Option.or_assoc]

/-! ### Order -/

/-- The names of the bindings ascend. -/
def IsSorted (b : Bindings) : Prop :=
  b.Pairwise fun x y => x.1 < y.1

theorem mem_insert {entry x : String × String} (h : x ∈ b.insert entry) : x = entry ∨ x ∈ b := by
  induction b with
  | nil => exact List.mem_cons.1 h
  | cons e es ih =>
    rw [insert] at h
    split_ifs at h
    · exact List.mem_cons.1 h
    · exact .inr h
    · obtain rfl | h := List.mem_cons.1 h
      · exact .inr List.mem_cons_self
      · exact (ih h).imp_right (List.mem_cons_of_mem e)

theorem IsSorted.insert (h : b.IsSorted) (entry : String × String) :
    (b.insert entry).IsSorted := by
  induction b with
  | nil => exact List.pairwise_singleton ..
  | cons e es ih =>
    obtain ⟨hfirst, hrest⟩ := List.pairwise_cons.1 h
    rw [Bindings.insert]
    split_ifs with hlt heq
    · refine List.pairwise_cons.2 ⟨fun x hx => ?_, h⟩
      obtain rfl | hx := List.mem_cons.1 hx
      · exact hlt
      · exact hlt.trans (hfirst x hx)
    · exact h
    · refine List.pairwise_cons.2 ⟨fun x hx => ?_, ih hrest⟩
      obtain rfl | hx := mem_insert hx
      · exact lt_of_le_of_ne (not_lt.1 hlt) (Ne.symm heq)
      · exact hfirst x hx

theorem isSorted_ofEntries (es : List (String × String)) : (ofEntries es).IsSorted := by
  induction es with
  | nil => exact List.Pairwise.nil
  | cons e es ih => exact ih.insert e

theorem IsSorted.lookup_eq_none {e : String × String}
    (h : IsSorted (e :: b)) (hname : name < e.1) : List.lookup name (e :: b) = none := by
  refine List.lookup_eq_none_iff.2 fun x hx => bne_iff_ne.2 ?_
  obtain rfl | hx := List.mem_cons.1 hx
  · exact hname.ne
  · exact (hname.trans (List.rel_of_pairwise_cons h hx)).ne

/-- An entry whose name has a value changes nothing. -/
theorem IsSorted.insert_of_isSome (h : b.IsSorted) {entry : String × String}
    (hname : (b.lookup entry.1).isSome) : b.insert entry = b := by
  induction b with
  | nil => cases hname
  | cons e es ih =>
    rw [Bindings.insert]
    split_ifs with hlt heq
    · rw [h.lookup_eq_none hlt] at hname
      cases hname
    · rfl
    · rw [lookup_cons_eq_or, lookup_singleton_of_ne heq, Option.none_or] at hname
      rw [ih (List.Pairwise.of_cons h) hname]

/-- An entry that is put in counts for its name only if the name had no value. -/
theorem IsSorted.lookup_insert (h : b.IsSorted) (entry : String × String) (name : String) :
    (b.insert entry).lookup name = (b.lookup name).or (List.lookup name [entry]) := by
  cases hentry : b.lookup entry.1 with
  | none => exact lookup_insert_of_none hentry name
  | some value =>
    rw [h.insert_of_isSome (hentry ▸ rfl)]
    by_cases hname : name = entry.1
    · rw [hname, hentry, Option.some_or]
    · rw [lookup_singleton_of_ne hname, Option.or_none]

theorem perm_insert {entry : String × String} (h : b.lookup entry.1 = none) :
    (b.insert entry).Perm (entry :: b) := by
  induction b with
  | nil => exact .refl _
  | cons e es ih =>
    obtain ⟨hfirst, hrest⟩ := Option.or_eq_none_iff.1 (lookup_cons_eq_or e es entry.1 ▸ h)
    rw [insert]
    split_ifs with hlt heq
    · exact .refl _
    · obtain ⟨k, v⟩ := e
      rw [heq, List.lookup_cons_self] at hfirst
      cases hfirst
    · exact ((ih hrest).cons e).trans (.swap entry e es)

/-- Entries whose names differ are put in order and nothing else. -/
theorem perm_ofEntries {es : List (String × String)} (h : (es.map Prod.fst).Nodup) :
    (ofEntries es).Perm es := by
  induction es with
  | nil => exact .refl _
  | cons e es ih =>
    rw [List.map_cons, List.nodup_cons] at h
    have hnew : (ofEntries es).lookup e.1 = none := by
      rw [← Option.not_isSome_iff_eq_none, isSome_lookup_ofEntries]
      exact h.1
    exact (perm_insert hnew).trans ((ih h.2).cons e)

/-- The order of entries whose names differ does not matter. -/
theorem ofEntries_eq_of_perm {es es' : List (String × String)} (hnames : (es.map Prod.fst).Nodup)
    (h : es.Perm es') : ofEntries es = ofEntries es' := by
  have hnames' : (es'.map Prod.fst).Nodup := (h.map Prod.fst).nodup_iff.1 hnames
  refine List.Perm.eq_of_pairwise (fun x y _ _ hlt hlt' => absurd hlt' hlt.asymm)
    (isSorted_ofEntries es) (isSorted_ofEntries es') ?_
  exact (perm_ofEntries hnames).trans (h.trans (perm_ofEntries hnames').symm)

/-- Of the entries with a name the last one counts. -/
theorem lookup_ofEntries (es : List (String × String)) (name : String) :
    (ofEntries es).lookup name = es.reverse.lookup name := by
  induction es with
  | nil => rfl
  | cons e es ih =>
    rw [ofEntries_cons, (isSorted_ofEntries es).lookup_insert, ih, List.reverse_cons,
      List.lookup_append]

end Bindings

namespace Node

variable {entries : List (String × Node)} {key : String}

/-- A key of a mapping has the value of its first entry. -/
theorem get?_eq_some_iff {n : Node} : (mapping entries).get? key = some n ↔
    ∃ before behind, entries = before ++ (key, n) :: behind ∧ key ∉ before.map Prod.fst := by
  have hbefore (before : List (String × Node)) :
      key ∉ before.map Prod.fst ↔ ∀ e ∈ before, (key != e.1) = true := by
    simp only [List.mem_map, not_exists, not_and, bne_iff_ne]
    exact forall₂_congr fun e _ => ne_comm
  simp only [hbefore]
  exact List.lookup_eq_some_iff

/-- If a key has one value at most, it does not matter where its entry stands. -/
theorem get?_eq_some_iff_mem {m : Node}
    (h : ∀ n n', (key, n) ∈ entries → (key, n') ∈ entries → n = n') :
    (mapping entries).get? key = some m ↔ (key, m) ∈ entries := by
  constructor
  · intro hget
    obtain ⟨before, behind, rfl, -⟩ := get?_eq_some_iff.1 hget
    exact List.mem_append_right before List.mem_cons_self
  · intro hmem
    cases hget : (mapping entries).get? key with
    | none =>
      have hother := List.lookup_eq_none_iff.1 hget _ hmem
      exact absurd rfl (bne_iff_ne.1 hother)
    | some n =>
      obtain ⟨before, behind, hentries, -⟩ := get?_eq_some_iff.1 hget
      have hn : (key, n) ∈ entries := hentries ▸ List.mem_append_right before List.mem_cons_self
      rw [h n m hn hmem]

/-- A key of a mapping is bound to the text of its last entry. -/
theorem lookup_ofNode_eq_some_iff {text : String} :
    (Bindings.ofNode (mapping entries)).lookup key = some text ↔
      ∃ before n behind, entries = before ++ (key, n) :: behind ∧ key ∉ behind.map Prod.fst ∧
        n.display = text := by
  have hlookup : (Bindings.ofNode (mapping entries)).lookup key =
      ((mapping entries.reverse).get? key).map display := by
    show _ = (entries.reverse.lookup key).map display
    rw [← Bindings.lookup_map, List.map_reverse]
    exact Bindings.lookup_ofEntries ..
  simp only [hlookup, Option.map_eq_some_iff, get?_eq_some_iff]
  constructor
  · rintro ⟨n, ⟨behind, before, hentries, hbehind⟩, htext⟩
    refine ⟨before.reverse, n, behind.reverse, ?_, by simpa using hbehind, htext⟩
    rw [← List.reverse_reverse entries, hentries]
    simp
  · rintro ⟨before, n, behind, hentries, hbehind, htext⟩
    refine ⟨n, ⟨behind.reverse, before.reverse, ?_, by simpa using hbehind⟩, htext⟩
    rw [hentries]
    simp

/-- If no key occurs twice, each entry is found, and its text is bound. -/
theorem get?_and_lookup_ofNode_of_nodup (h : (entries.map Prod.fst).Nodup) (key : String)
    (n : Node) : ((key, n) ∈ entries ↔ (mapping entries).get? key = some n) ∧
      ((key, n) ∈ entries →
        (Bindings.ofNode (mapping entries)).lookup key = some n.display) := by
  have hsplit (hmem : (key, n) ∈ entries) :
      ∃ before behind, entries = before ++ (key, n) :: behind ∧
        key ∉ before.map Prod.fst ∧ key ∉ behind.map Prod.fst := by
    obtain ⟨before, behind, rfl⟩ := List.append_of_mem hmem
    refine ⟨before, behind, rfl, ?_⟩
    rw [List.map_append, List.map_cons, List.nodup_middle, List.nodup_cons, List.mem_append,
      not_or] at h
    exact h.1
  refine ⟨⟨fun hmem => ?_, fun hget => ?_⟩, fun hmem => ?_⟩
  · obtain ⟨before, behind, hentries, hbefore, -⟩ := hsplit hmem
    exact get?_eq_some_iff.2 ⟨before, behind, hentries, hbefore⟩
  · obtain ⟨before, behind, rfl, -⟩ := get?_eq_some_iff.1 hget
    exact List.mem_append_right before List.mem_cons_self
  · obtain ⟨before, behind, hentries, -, hbehind⟩ := hsplit hmem
    exact lookup_ofNode_eq_some_iff.2 ⟨before, n, behind, hentries, hbehind, rfl⟩

end Node

end PipelineScript
