import PipelineScript.Yaml.Token
import PipelineScript.Yaml.Tree

/-!
# Open collections

A collection whose end has not been read holds the nodes read so far and the place that has been
reached in it.  Where a node is left out, the token behind the gap shows it, and an empty scalar
is put in.
-/

namespace PipelineScript.Yaml

/-- The empty plain scalar that stands for a node that is left out. -/
def Tree.empty (anchor : Option Nat) (tag : Option Tag) : Tree :=
  .scalar anchor ⟨"", .plain, tag⟩

/-- The anchor and the tag in front of a node. -/
structure Properties where
  anchor : Option Nat
  tag : Option Tag
  deriving Repr, Inhabited

/-- A node without anchor and tag. -/
def Properties.none : Properties := ⟨.none, .none⟩

/-- The kinds of collections; the items of an indentless sequence stand at the column of the
mapping around it, and a pair is a mapping of one entry without braces in a flow sequence. -/
inductive CollectionKind where
  | blockSequence
  | indentlessSequence
  | blockMapping
  | flowSequence
  | flowMapping
  | pair
  deriving DecidableEq, Repr, Inhabited

/-- The collection is delimited by brackets and commas. -/
def CollectionKind.isFlow : CollectionKind → Bool
  | .flowSequence | .flowMapping => true
  | _ => false

/-- A place in a collection. -/
inductive Place where
  /-- An entry may begin here, or the collection may end. -/
  | entry
  /-- An item of a block sequence begins here. -/
  | item
  /-- A key begins here. -/
  | key
  /-- A key has been read. -/
  | keyRead
  /-- A value begins here. -/
  | value
  /-- An entry has been read, and a comma or the end follows. -/
  | entryRead
  deriving DecidableEq, Repr, Inhabited

/-- A collection whose end has not been read. -/
structure OpenCollection where
  kind : CollectionKind
  properties : Properties
  place : Place
  /-- The nodes so far, keys and values in turn in a mapping, the last one first. -/
  nodes : List Tree
  deriving Inhabited

namespace OpenCollection

/-- A node may begin at the place that has been reached. -/
def wantsNode (c : OpenCollection) : Bool :=
  match c.place with
  | .item | .key | .value => true
  | .entry => c.kind.isFlow
  | .keyRead | .entryRead => false

/-- The place behind an entry. -/
def placeBehindEntry (c : OpenCollection) : Place :=
  match c.kind with
  | .blockSequence | .indentlessSequence | .blockMapping => .entry
  | .flowSequence | .flowMapping | .pair => .entryRead

/-- Puts in the next node. -/
def accept (c : OpenCollection) (t : Tree) : OpenCollection :=
  match c.place with
  | .key => { c with place := .keyRead, nodes := t :: c.nodes }
  | .entry =>
    if c.kind = .flowMapping then
      { c with place := .entryRead, nodes := Tree.empty none none :: t :: c.nodes }
    else { c with place := c.placeBehindEntry, nodes := t :: c.nodes }
  | _ => { c with place := c.placeBehindEntry, nodes := t :: c.nodes }

/-- A node is left out when the token `t` stands at the place that has been reached. -/
def isEmptyBefore (c : OpenCollection) (t : Token) : Bool :=
  match c.kind, c.place with
  | .blockSequence, .item => t == .blockEntry || t == .blockEnd
  | .indentlessSequence, .item => t == .blockEntry || t == .key || t == .value || t == .blockEnd
  | .blockMapping, .key | .blockMapping, .value => t == .key || t == .value || t == .blockEnd
  | .flowMapping, .key => t == .value || t == .flowEntry || t == .flowMappingEnd
  | .flowMapping, .value => t == .flowEntry || t == .flowMappingEnd
  | .pair, .value => t == .flowEntry || t == .flowSequenceEnd
  | _, _ => false

/-- Puts in the nodes that are left out before the token `t`. -/
def fill (c : OpenCollection) (t : Token) : OpenCollection :=
  let c := if c.isEmptyBefore t then c.accept (Tree.empty none none) else c
  if c.place = .keyRead && t != .value then
    { c with place := .value }.accept (Tree.empty none none)
  else c

/-- The entries of a mapping whose nodes are `nodes`. -/
def pairs : List Tree → List (Tree × Tree)
  | k :: v :: nodes => (k, v) :: pairs nodes
  | _ => []

/-- The node that the collection is when it ends here. -/
def tree (c : OpenCollection) : Tree :=
  match c.kind with
  | .blockSequence | .indentlessSequence | .flowSequence =>
    .sequence c.properties.anchor c.properties.tag c.nodes.reverse
  | .blockMapping | .flowMapping | .pair =>
    .mapping c.properties.anchor c.properties.tag (pairs c.nodes.reverse)

end OpenCollection

end PipelineScript.Yaml
