import PipelineScript.Yaml.Token
import Std.Data.TreeMap

/-!
# The tree of a document

A tree holds the scalars of a document as they are written.  An anchor is known by a number, which
is the count of the distinct anchor names before it; when a name is given again, its new number may
also be that of a later anchor, and an alias stands for the last node with its number.
-/

namespace PipelineScript.Yaml

/-- A scalar as it is written. -/
structure Scalar where
  text : String
  style : Style
  tag : Option Tag
  deriving DecidableEq, Repr, Inhabited

/-- The tree of a document. -/
inductive Tree where
  | scalar (anchor : Option Nat) (s : Scalar)
  | sequence (anchor : Option Nat) (tag : Option Tag) (items : List Tree)
  | mapping (anchor : Option Nat) (tag : Option Tag) (entries : List (Tree × Tree))
  | reference (anchor : Nat)
  deriving Repr, Inhabited

namespace Tree

mutual

/-- The number of nodes and collection ends of a tree. -/
def events : Tree → Nat
  | scalar .. => 1
  | sequence _ _ items => 2 + eventsOfItems items
  | mapping _ _ entries => 2 + eventsOfEntries entries
  | reference _ => 1

/-- The number of nodes and collection ends of the items of a sequence. -/
def eventsOfItems : List Tree → Nat
  | [] => 0
  | t :: ts => t.events + eventsOfItems ts

/-- The number of nodes and collection ends of the entries of a mapping. -/
def eventsOfEntries : List (Tree × Tree) → Nat
  | [] => 0
  | (k, v) :: es => k.events + v.events + eventsOfEntries es

end

end Tree

/-- The nodes that aliases stand for, by the numbers of their anchors. -/
abbrev Targets := Std.TreeMap Nat Tree

/-- Notes the node of an anchor. -/
def Targets.note (ts : Targets) (anchor : Option Nat) (t : Tree) : Targets :=
  match anchor with
  | none => ts
  | some a => ts.insert a t

namespace Tree

mutual

/-- Notes the anchors of a tree in the order of the text, so that the last node with a number
counts. -/
def note (ts : Targets) : Tree → Targets
  | reference _ => ts
  | scalar a s => ts.note a (scalar a s)
  | sequence a tag items => noteItems (ts.note a (sequence a tag items)) items
  | mapping a tag entries => noteEntries (ts.note a (mapping a tag entries)) entries

/-- Notes the anchors of the items of a sequence. -/
def noteItems (ts : Targets) : List Tree → Targets
  | [] => ts
  | t :: items => noteItems (note ts t) items

/-- Notes the anchors of the entries of a mapping. -/
def noteEntries (ts : Targets) : List (Tree × Tree) → Targets
  | [] => ts
  | (k, v) :: entries => noteEntries (note (note ts k) v) entries

end

end Tree

/-- A document: its tree, or `none` if the text holds no document, and the nodes that its aliases
stand for. -/
structure Document where
  root : Option Tree
  targets : Targets
  deriving Repr, Inhabited

namespace Document

/-- The document without a tree. -/
def empty : Document := ⟨none, ∅⟩

/-- The document with a tree. -/
def ofTree (t : Tree) : Document := ⟨some t, t.note ∅⟩

/-- The number of nodes and collection ends of a document. -/
def events (d : Document) : Nat :=
  d.root.elim 1 Tree.events

/-- The node that an alias stands for. -/
def target (d : Document) (anchor : Nat) : Option Tree :=
  d.targets[anchor]?

end Document

end PipelineScript.Yaml
