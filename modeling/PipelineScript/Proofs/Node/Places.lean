import PipelineScript.Proofs.Node.Keys
import PipelineScript.Proofs.Yaml.Leaves

/-!
# Places in a node

The node of a document has its nodes where the document has them. A key is kept as its text, so what
stands in a key is found in a node with that text.
-/

namespace PipelineScript

open Yaml (Branch Document Leaf Tag Value bind_eq_ok map_eq_ok)

namespace Node

/-- A node stands at the end of a way that begins at another node. -/
inductive IsAt (m : Node) : List Branch → Node → Prop
  | here : IsAt m [] m
  | item {items : List Node} {i : Nat} {n : Node} {way : List Branch} (hn : items[i]? = some n)
      (h : IsAt m way n) : IsAt m (.item i :: way) (.sequence items)
  | key {entries : List (String × Node)} {i : Nat} {k n : Node} {way : List Branch}
      (hn : entries[i]? = some (k.display, n)) (h : IsAt m way k) :
      IsAt m (.key i :: way) (.mapping entries)
  | value {entries : List (String × Node)} {i : Nat} {k : String} {n : Node} {way : List Branch}
      (hn : entries[i]? = some (k, n)) (h : IsAt m way n) :
      IsAt m (.value i :: way) (.mapping entries)

theorem ofValue_withTag (tag : Option Tag) (v : Value) : ofValue (v.withTag tag) = ofValue v := by
  rw [Value.withTag]
  split
  · rfl
  · rfl

end Node

namespace Yaml

/-- What stands at a place of a list belongs to what stands there in the other list. -/
theorem exists_getElem?_of_forall₂ {α β : Type} {R : α → β → Prop} {as : List α} {bs : List β}
    (h : List.Forall₂ R as bs) {i : Nat} {a : α} (ha : as[i]? = some a) :
    ∃ b, bs[i]? = some b ∧ R a b := by
  induction h generalizing i with
  | nil => cases ha
  | @cons a' b as bs hab _ ih =>
    cases i with
    | zero =>
      cases ha
      exact ⟨b, rfl, hab⟩
    | succ i => exact ih ha

theorem Tree.exists_of_mem_leavesOfItems {position : Nat} {items : List Tree} {l : Leaf}
    (h : l ∈ leavesOfItems position items) :
    ∃ (i : Nat) (t : Tree), items[i]? = some t ∧
      ∃ l' ∈ t.leaves, l = Leaf.below (.item (position + i)) l' := by
  induction items generalizing position with
  | nil => cases h
  | cons t ts ih =>
    rcases List.mem_append.1 h with h | h
    · obtain ⟨l', hl', rfl⟩ := List.mem_map.1 h
      exact ⟨0, t, rfl, l', hl', rfl⟩
    · obtain ⟨i, t', hi, l', hl', rfl⟩ := ih h
      exact ⟨i + 1, t', hi, l', hl', by rw [Nat.add_right_comm, Nat.add_assoc]⟩

theorem Tree.exists_of_mem_leavesOfEntries {position : Nat} {entries : List (Tree × Tree)}
    {l : Leaf} (h : l ∈ leavesOfEntries position entries) :
    ∃ (i : Nat) (e : Tree × Tree), entries[i]? = some e ∧
      ((∃ l' ∈ e.1.leaves, l = Leaf.below (.key (position + i)) l') ∨
        ∃ l' ∈ e.2.leaves, l = Leaf.below (.value (position + i)) l') := by
  induction entries generalizing position with
  | nil => cases h
  | cons e es ih =>
    rcases List.mem_append.1 h with h | h
    · refine ⟨0, e, rfl, ?_⟩
      rcases List.mem_append.1 h with h | h
      · obtain ⟨l', hl', rfl⟩ := List.mem_map.1 h
        exact .inl ⟨l', hl', rfl⟩
      · obtain ⟨l', hl', rfl⟩ := List.mem_map.1 h
        exact .inr ⟨l', hl', rfl⟩
    · obtain ⟨i, e', hi, hl⟩ := ih h
      rw [Nat.add_right_comm, Nat.add_assoc] at hl
      exact ⟨i + 1, e', hi, hl⟩

section Resolve

variable {d : Document} {depth : Nat} {l : Leaf}

/-- The value of each scalar of a tree, wherever the tree stands, has its node at the place of the
scalar. -/
def Document.PlacesLeaves (d : Document) (depth : Nat) : Prop :=
  ∀ ⦃t v⦄, d.Resolves depth t v → ∀ l ∈ t.leaves,
    ∃ u, l.scalar.value = .ok u ∧ (Node.ofValue u).IsAt l.way (Node.ofValue v)

theorem Document.PlacesLeaves.items (hd : d.PlacesLeaves depth) {items : List Tree}
    {vs : List Value} (h : List.Forall₂ (d.Resolves depth) items vs)
    (hl : l ∈ Tree.leavesOfItems 0 items) :
    ∃ u, l.scalar.value = .ok u ∧
      (Node.ofValue u).IsAt l.way (Node.ofValue (.sequence vs)) := by
  obtain ⟨i, t, hi, l', hl', rfl⟩ := Tree.exists_of_mem_leavesOfItems hl
  obtain ⟨v, hv, hresolves⟩ := exists_getElem?_of_forall₂ h hi
  obtain ⟨u, hu, hat⟩ := hd hresolves l' hl'
  refine ⟨u, hu, ?_⟩
  rw [Node.ofValue, Node.ofItems_eq_map, Nat.zero_add]
  exact .item (by rw [List.getElem?_map, hv]; rfl) hat

theorem Document.PlacesLeaves.entries (hd : d.PlacesLeaves depth) {entries : List (Tree × Tree)}
    {es : List (Value × Value)}
    (h : List.Forall₂ (fun e e' => d.Resolves depth e.1 e'.1 ∧ d.Resolves depth e.2 e'.2)
      entries es)
    (hl : l ∈ Tree.leavesOfEntries 0 entries) :
    ∃ u, l.scalar.value = .ok u ∧
      (Node.ofValue u).IsAt l.way (Node.ofValue (.mapping es)) := by
  obtain ⟨i, e, hi, hl⟩ := Tree.exists_of_mem_leavesOfEntries hl
  obtain ⟨⟨k, v⟩, hw, hkey, hvalue⟩ := exists_getElem?_of_forall₂ h hi
  rw [Node.ofValue, Node.ofEntries_eq_map]
  have hentry : (es.map fun e => (Node.keyText e.1, Node.ofValue e.2))[i]? =
      some ((Node.ofValue k).display, Node.ofValue v) := by
    rw [List.getElem?_map, hw]
    rfl
  rw [Nat.zero_add] at hl
  obtain ⟨l', hl', rfl⟩ | ⟨l', hl', rfl⟩ := hl
  · obtain ⟨u, hu, hat⟩ := hd hkey l' hl'
    exact ⟨u, hu, .key hentry hat⟩
  · obtain ⟨u, hu, hat⟩ := hd hvalue l' hl'
    exact ⟨u, hu, .value hentry hat⟩

/-- A tree with a scalar in it is no alias. -/
theorem Document.eq_of_follow {t t' : Tree} {n n' : Nat} (hl : l ∈ t.leaves)
    (h : d.follow t n = .ok (t', n')) : t' = t := by
  cases t with
  | reference anchor => cases hl
  | scalar | sequence | mapping =>
    cases h
    rfl

theorem Document.placesLeaves (d : Document) (depth : Nat) : d.PlacesLeaves depth := by
  induction depth using Nat.strongRecOn with
  | ind depth ih =>
    intro t v h l hl
    obtain ⟨t', n, n', hfollow, hmakes⟩ := h.makes
    obtain rfl := eq_of_follow hl hfollow
    cases hmakes with
    | scalar hvalue =>
      obtain rfl := List.mem_singleton.1 hl
      exact ⟨v, hvalue, .here⟩
    | @sequence depth _ _ items vs hitems =>
      rw [Node.ofValue_withTag]
      exact (ih depth (Nat.lt_succ_self depth)).items hitems hl
    | @mapping depth _ _ entries es _ hentries =>
      rw [Node.ofValue_withTag]
      exact (ih depth (Nat.lt_succ_self depth)).entries hentries hl

end Resolve

end Yaml

/-- The value of each scalar of a document has its node at the place of the scalar. -/
theorem Node.isAt_of_parse {text : String} {n : Node} (h : Node.parse text = .ok n) :
    ∃ d, Document.parse text = .ok d ∧
      ∀ l ∈ d.leaves, ∃ u, l.scalar.value = .ok u ∧ (Node.ofValue u).IsAt l.way n := by
  obtain ⟨v, hv, rfl⟩ := map_eq_ok.1 h
  obtain ⟨d, hd, hv⟩ := bind_eq_ok.1 hv
  refine ⟨d, hd, fun l hl => ?_⟩
  rw [Document.value] at hv
  cases hroot : d.root with
  | none =>
    rw [Document.leaves, hroot] at hl
    cases hl
  | some t =>
    rw [hroot] at hv
    rw [Document.leaves, hroot] at hl
    obtain ⟨⟨w, left⟩, hresolve, rfl⟩ := map_eq_ok.1 hv
    exact d.placesLeaves _ ⟨_, _, hresolve⟩ l hl

end PipelineScript
