import Mathlib.Data.List.Basic
import PipelineScript.Proofs.Yaml.Token.PlainScalars
import PipelineScript.Yaml.Tree

/-!
# The scalars of a tree

A scalar of a tree is found at the end of a way that begins at the root.  The scalars are listed in
the order of the text, a key before its value.  What an alias stands for is found at its own place
only.
-/

namespace PipelineScript.Yaml

/-- A step from a node of a tree to one that stands directly in it. -/
inductive Branch where
  | item (position : Nat)
  | key (position : Nat)
  | value (position : Nat)
  deriving DecidableEq, Repr

/-- A scalar of a tree, and the way to it. -/
structure Leaf where
  way : List Branch
  scalar : Scalar
  deriving DecidableEq, Repr

/-- The leaf of a node that stands behind a branch. -/
def Leaf.below (b : Branch) (l : Leaf) : Leaf :=
  { l with way := b :: l.way }

/-- The scalar is written without quotes, and it is not left out. -/
def Scalar.isPlainText (s : Scalar) : Bool :=
  s.style = .plain && s.text ≠ ""

/-- The plain ones among some scalars. -/
def plainLeaves (ls : List Leaf) : List Leaf :=
  ls.filter (·.scalar.isPlainText)

/-- The texts of the plain ones among some scalars. -/
def plainTexts (ls : List Leaf) : List String :=
  (plainLeaves ls).map (·.scalar.text)

theorem plainTexts_append (ls ls' : List Leaf) :
    plainTexts (ls ++ ls') = plainTexts ls ++ plainTexts ls' := by
  rw [plainTexts, plainLeaves, List.filter_append, List.map_append]
  rfl

theorem plainTexts_below (b : Branch) (ls : List Leaf) :
    plainTexts (ls.map (Leaf.below b)) = plainTexts ls := by
  rw [plainTexts, plainLeaves, List.filter_map, List.map_map]
  rfl

namespace Tree

mutual

/-- The scalars of a tree. -/
def leaves : Tree → List Leaf
  | scalar _ s => [⟨[], s⟩]
  | sequence _ _ items => leavesOfItems 0 items
  | mapping _ _ entries => leavesOfEntries 0 entries
  | reference _ => []

/-- The scalars of the items of a sequence from a position on. -/
def leavesOfItems (position : Nat) : List Tree → List Leaf
  | [] => []
  | t :: ts => t.leaves.map (.below (.item position)) ++ leavesOfItems (position + 1) ts

/-- The scalars of the entries of a mapping from a position on. -/
def leavesOfEntries (position : Nat) : List (Tree × Tree) → List Leaf
  | [] => []
  | (k, v) :: es =>
    k.leaves.map (.below (.key position)) ++ v.leaves.map (.below (.value position)) ++
      leavesOfEntries (position + 1) es

end

/-- The texts of the plain scalars of a tree. -/
def texts (t : Tree) : List String :=
  plainTexts t.leaves

section Texts

variable (anchor : Option Nat) (tag : Option Tag)

theorem texts_scalar (s : Scalar) :
    (scalar anchor s).texts = (Token.scalar s.text s.style).plainText?.toList := by
  obtain ⟨text, style, tag⟩ := s
  have htexts : (scalar anchor ⟨text, style, tag⟩).texts =
      if Scalar.isPlainText ⟨text, style, tag⟩ then [text] else [] := by
    rw [texts, leaves, plainTexts, plainLeaves, List.filter_cons]
    split_ifs
    · rfl
    · rfl
  rw [htexts, Scalar.isPlainText]
  by_cases htext : text = ""
  · cases style <;> simp [Token.plainText?, htext]
  · cases style <;> simp [Token.plainText?, htext]

theorem texts_sequence (items : List Tree) :
    (sequence anchor tag items).texts = items.flatMap texts := by
  have hitems (position : Nat) :
      plainTexts (leavesOfItems position items) = items.flatMap texts := by
    induction items generalizing position with
    | nil => rfl
    | cons t ts ih =>
      rw [leavesOfItems, plainTexts_append, plainTexts_below, ih, List.flatMap_cons]
      rfl
  exact hitems 0

theorem texts_mapping (entries : List (Tree × Tree)) :
    (mapping anchor tag entries).texts = entries.flatMap fun e => e.1.texts ++ e.2.texts := by
  have hentries (position : Nat) :
      plainTexts (leavesOfEntries position entries) =
        entries.flatMap fun e => e.1.texts ++ e.2.texts := by
    induction entries generalizing position with
    | nil => rfl
    | cons e es ih =>
      rw [leavesOfEntries, plainTexts_append, plainTexts_append, plainTexts_below,
        plainTexts_below, ih, List.flatMap_cons]
      rfl
  exact hentries 0

end Texts

end Tree

/-- The scalars of a document. -/
def Document.leaves (d : Document) : List Leaf :=
  d.root.elim [] Tree.leaves

end PipelineScript.Yaml
