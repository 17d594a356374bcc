import PipelineScript.Yaml.Misfit

/-!
# Reading documents of a known shape

A shape is read from the tree of a document: aliases are followed and tags are passed over.  A text
takes any scalar as it is written.  A list and a record take an empty plain scalar as empty.  The
first misfit in the order of the text is told, unless the document is not well-formed.
-/

namespace PipelineScript.Yaml

/-- The node that is meant at a place: an alias stands for its target. -/
def Document.node (d : Document) : Tree → Tree
  | .reference anchor => (d.target anchor).getD (.reference anchor)
  | t => t

/-- The misfit of a node that has another type than `expected`. -/
def wrongType {α : Type} (path : List Segment) (t : Tree) (expected : String) :
    Except Problem α :=
  match Found.ofTree t with
  | .ok found => .error (.misfit ⟨path, .wrongType found expected⟩)
  | .error f => .error (.fault f)

/-- The node is an empty plain scalar. -/
def Tree.isBlank : Tree → Bool
  | .scalar _ s => s.text.isEmpty && s.style = .plain
  | _ => false

namespace Document

/-- Reads a text. -/
def readText (d : Document) (path : List Segment) (t : Tree) : Except Problem String :=
  match d.node t with
  | .scalar _ s => .ok s.text
  | t => wrongType path t "a string"

/-- The unsigned integer of at most 64 bits that a scalar is a form of; a quoted one is none, and
one in literal style needs a tag. -/
def unsigned? (s : Scalar) : Option Nat :=
  let admitted := match s.style with
    | .plain => true
    | .literal => s.tag = some CoreType.integer.tag
    | _ => false
  if admitted then
    match s.text.toList with
    | '-' :: _ => none
    | cs => ((integer? cs).map Int.toNat).filter (· < Nat.pow 2 64)
  else none

/-- Reads an unsigned integer. -/
def readUnsigned (d : Document) (path : List Segment) (t : Tree) : Except Problem Nat :=
  let t := d.node t
  let n? := match t with
    | .scalar _ s => unsigned? s
    | _ => none
  match n? with
  | some n => .ok n
  | none => wrongType path t "usize"

/-- Reads a list of texts. -/
def readTexts (d : Document) (path : List Segment) (t : Tree) : Except Problem (List String) :=
  match d.node t with
  | .sequence _ _ items =>
    items.zipIdx.mapM fun (item, i) => d.readText (path ++ [.index i]) item
  | t => if t.isBlank then .ok [] else wrongType path t "a sequence"

/-- The segment of the value of a key. -/
def segment : Tree → Segment
  | .scalar _ s => .key s.text
  | _ => .unnamedKey

/-- Reads the name of a field of a record that has the fields `known` and of which the fields
`seen` have been read. -/
def readFieldName (d : Document) (path : List Segment) (known seen : List String) (t : Tree) :
    Except Problem String :=
  match d.node t with
  | .scalar _ s =>
    if s.text ∉ known then .error (.misfit ⟨path, .unknownField s.text known⟩)
    else if s.text ∈ seen then .error (.misfit ⟨path, .duplicateField s.text⟩)
    else .ok s.text
  | t => wrongType path t "field identifier"

/-- Reads a record, whose fields `known` are put into a value one by one. -/
def readRecord {σ : Type} (d : Document) (path : List Segment) (expected : String)
    (known : List String) (start : σ)
    (put : σ → String → List Segment → Tree → Except Problem σ) (t : Tree) :
    Except Problem σ :=
  match d.node t with
  | .mapping _ _ entries => do
    let (s, _) ← entries.foldlM (fun ((s, seen) : σ × List String) (e : Tree × Tree) => do
      let name ← d.readFieldName path known seen e.1
      let s ← put s name (path ++ [segment e.1]) e.2
      return (s, name :: seen)) (start, [])
    return s
  | t => if t.isBlank then .ok start else wrongType path t expected

/-- Reads the name of one of `variants`: a scalar, or the tag of an empty node. -/
def readVariant {α : Type} (variants : List (String × α)) (t : Tree) : Except Problem α := do
  let misfit (m : Mismatch) : Except Problem α := .error (.misfit ⟨[], m⟩)
  let named (name : String) (content : Except Problem Unit) : Except Problem α :=
    match variants.lookup name with
    | some a => content.map fun _ => a
    | none => misfit (.unknownVariant name (variants.map Prod.fst))
  let expected := "a YAML tag starting with '!'"
  match t with
  | .scalar _ s =>
    match s.tag.bind Tag.name? with
    | none => named s.text (.ok ())
    | some name =>
      named name <|
        if s.style = .plain && (s.text.isEmpty || isNull s.text) then .ok ()
        else .error (.misfit ⟨[], .wrongValue (.text s.text) "null"⟩)
  | .sequence _ tag _ =>
    match tag.bind Tag.name? with
    | none => misfit (.wrongType .sequence expected)
    | some name => named name (.error (.misfit ⟨[], .wrongType .sequence "unit"⟩))
  | .mapping _ tag _ =>
    match tag.bind Tag.name? with
    | none => misfit (.wrongType .mapping expected)
    | some name => named name (.error (.misfit ⟨[], .wrongType .mapping "unit"⟩))
  | .reference _ => .error (.fault .unknownAlias)

/-- Reads a text as a document of a shape; a misfit is told only if the document has a value. -/
def readAs {α : Type} (read : Document → Except Problem α) (text : String) :
    Except Problem α := do
  match parse text with
  | .error f => throw (.fault f)
  | .ok d =>
    match read d, d.value with
    | .ok a, _ => return a
    | .error _, .error f => throw (.fault f)
    | .error p, .ok _ => throw p

end Document

end PipelineScript.Yaml
