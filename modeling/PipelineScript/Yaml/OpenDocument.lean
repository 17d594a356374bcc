import PipelineScript.Yaml.OpenCollection
import PipelineScript.Yaml.Token.Scanner

/-!
# The document of a list of tokens

The tokens of a text make up at most one document: directives, which need the start marker behind
them, one node, and end markers.  The open collections of the node are kept innermost first.
-/

namespace PipelineScript.Yaml

/-- What the directives say. -/
structure Directives where
  hasVersion : Bool
  /-- The handles that are given, with what they stand for. -/
  handles : List (String × Tag)
  deriving Inhabited

namespace Directives

/-- No directive is given. -/
def none : Directives := ⟨false, []⟩

/-- Adds a directive; each may be given once only, and the version must be 1.1 or 1.2. -/
def add (d : Directives) : Token → Except Fault Directives
  | .versionDirective major minor =>
    if d.hasVersion || major != 1 || (minor != 1 && minor != 2) then .error .badDirective
    else .ok { d with hasVersion := true }
  | .tagDirective handle replacement =>
    if (d.handles.lookup handle).isSome then .error .badDirective
    else .ok { d with handles := (handle, replacement) :: d.handles }
  | _ => .error .unexpectedToken

/-- The handles that need not be given. -/
def standardHandles : List (String × Tag) :=
  [("!", .bare), ("!!", .ofText "tag:yaml.org,2002:")]

/-- The tag that a handle and a suffix stand for. -/
def tag (d : Directives) (handle : String) (suffix : Tag) : Except Fault Tag :=
  if handle = "" then .ok suffix
  else
    match (d.handles ++ standardHandles).lookup handle with
    | some replacement => .ok (replacement ++ suffix)
    | Option.none => .error .undefinedTagHandle

end Directives

/-- A document whose node is being read. -/
structure OpenDocument where
  directives : Directives
  /-- The document has a start marker, and its node may be left out. -/
  hasMarker : Bool
  /-- The numbers of the anchors. -/
  anchors : Std.TreeMap String Nat
  /-- The anchor and the tag of the next node, once one of them has been read. -/
  properties : Option Properties
  /-- The open collections, the innermost first. -/
  collections : List OpenCollection
  /-- The node of the document, once it is complete. -/
  root : Option Tree
  deriving Inhabited

namespace OpenDocument

/-- Puts a complete node in its place. -/
def accept (d : OpenDocument) (t : Tree) : OpenDocument :=
  match d.collections with
  | [] => { d with properties := none, root := some t }
  | c :: cs => { d with properties := none, collections := c.accept t :: cs }

/-- Opens a collection. -/
def openCollection (d : OpenDocument) (kind : CollectionKind) (place : Place) : OpenDocument :=
  { d with
    properties := none
    collections := ⟨kind, d.properties.getD .none, place, []⟩ :: d.collections }

/-- Gives an anchor to the next node. -/
def addAnchor (d : OpenDocument) (name : String) : OpenDocument :=
  let number := d.anchors.size
  { d with
    properties := some { d.properties.getD .none with anchor := some number }
    anchors := d.anchors.insert name number }

/-- Gives a tag to the next node. -/
def addTag (d : OpenDocument) (tag : Tag) : OpenDocument :=
  { d with properties := some { d.properties.getD .none with tag := some tag } }

/-- A block sequence that is not indented may begin here. -/
def allowsIndentless (d : OpenDocument) : Bool :=
  match d.collections with
  | c :: _ => c.kind = .blockMapping && (c.place = .key || c.place = .value)
  | [] => false

/-- Begins a node with the token `t`, or answers `none` if no node begins with it. -/
def beginNode (d : OpenDocument) (t : Token) : Option (Except Fault OpenDocument) :=
  let p := d.properties.getD .none
  match t with
  | .reference name =>
    if d.properties.isSome then none
    else
      match d.anchors[name]? with
      | some number => some (.ok (d.accept (.reference number)))
      | none => some (.error .unknownAlias)
  | .anchor name => if p.anchor.isSome then none else some (.ok (d.addAnchor name))
  | .tag handle suffix =>
    if p.tag.isSome then none else some ((d.directives.tag handle suffix).map d.addTag)
  | .scalar text style =>
    some (.ok (d.accept (.scalar p.anchor ⟨text, style, p.tag⟩)))
  | .blockSequenceStart => some (.ok (d.openCollection .blockSequence .entry))
  | .blockMappingStart => some (.ok (d.openCollection .blockMapping .entry))
  | .flowSequenceStart => some (.ok (d.openCollection .flowSequence .entry))
  | .flowMappingStart => some (.ok (d.openCollection .flowMapping .entry))
  | .blockEntry =>
    if d.allowsIndentless then some (.ok (d.openCollection .indentlessSequence .item)) else none
  | _ => none

/-- What a token does to the innermost open collection. -/
inductive Turn where
  /-- The token moves the collection on. -/
  | moves (c : OpenCollection)
  /-- The token opens a pair. -/
  | opensPair
  /-- The token ends the collection. -/
  | ends
  /-- The collection has ended before the token. -/
  | ended
  /-- The token must begin a node. -/
  | beginsNode

/-- What the token `t` does to a collection in which nothing is left out before it. -/
def turn (c : OpenCollection) (t : Token) : Turn :=
  match c.kind, c.place, t with
  | .blockSequence, .entry, .blockEntry => .moves { c with place := .item }
  | .blockSequence, .entry, .blockEnd => .ends
  | .indentlessSequence, .entry, .blockEntry => .moves { c with place := .item }
  | .indentlessSequence, .entry, _ => .ended
  | .blockMapping, .entry, .key => .moves { c with place := .key }
  | .blockMapping, .entry, .blockEnd => .ends
  | .flowMapping, .entry, .key => .moves { c with place := .key }
  | .flowSequence, .entry, .key => .opensPair
  | .flowSequence, .entry, .flowSequenceEnd => .ends
  | .flowMapping, .entry, .flowMappingEnd => .ends
  | .flowSequence, .entryRead, .flowEntry => .moves { c with place := .entry }
  | .flowMapping, .entryRead, .flowEntry => .moves { c with place := .entry }
  | .flowSequence, .entryRead, .flowSequenceEnd => .ends
  | .flowMapping, .entryRead, .flowMappingEnd => .ends
  | .pair, .entryRead, _ => .ended
  -- The token that shows that the key of a pair is left out is dropped with it.
  | .pair, .key, .value => .moves (c.accept (Tree.empty none none))
  | .pair, .key, .flowEntry => .moves (c.accept (Tree.empty none none))
  | .pair, .key, .flowSequenceEnd => .moves (c.accept (Tree.empty none none))
  | _, .keyRead, .value => .moves { c with place := .value }
  | _, _, _ => .beginsNode

/-- Reads a token behind complete nodes; `cs` are the open collections and `root` the node of the
document if it is complete. -/
def readFrom (d : OpenDocument) (t : Token) :
    List OpenCollection → Option Tree → Except Fault OpenDocument
  | [], root =>
    if root.isSome then .error .unexpectedToken
    else (beginNode { d with collections := [], root } t).getD (.error .unexpectedToken)
  | c :: cs, root =>
    let c := c.fill t
    match turn c t with
    | .moves c => .ok { d with collections := c :: cs, root }
    | .opensPair =>
      .ok { d with collections := ⟨.pair, .none, .key, []⟩ :: c :: cs, root }
    | .ends => .ok (({ d with collections := cs, root } : OpenDocument).accept c.tree)
    | .ended =>
      match cs with
      | [] => .error .unexpectedToken
      | outer :: cs => readFrom d t (outer.accept c.tree :: cs) root
    | .beginsNode =>
      if c.wantsNode then
        (beginNode { d with collections := c :: cs, root } t).getD (.error .unexpectedToken)
      else .error .unexpectedToken
termination_by cs => cs.length

/-- Reads a token of the node. -/
def read (d : OpenDocument) (t : Token) : Except Fault OpenDocument :=
  match d.properties with
  | none => readFrom d t d.collections d.root
  | some p =>
    match beginNode d t with
    | some r => r
    | none =>
      let d := d.accept (Tree.empty p.anchor p.tag)
      readFrom d t d.collections d.root

/-- The node of the document when it ends here. -/
def finish (d : OpenDocument) : Except Fault Tree :=
  let d := match d.properties with
    | some p => d.accept (Tree.empty p.anchor p.tag)
    | none => d
  match d.collections, d.root with
  | [], some t => .ok t
  | [], none => if d.hasMarker then .ok (Tree.empty none none) else .error .unexpectedToken
  | _ :: _, _ => .error .unexpectedToken

end OpenDocument

/-- How far the tokens of a text have been read. -/
inductive Reading where
  /-- Directives or the document may follow. -/
  | before (d : Directives)
  /-- The node of the document is being read. -/
  | inside (d : OpenDocument)
  /-- The document is complete. -/
  | behind (root : Tree)

namespace Reading

/-- The document begins. -/
def openWith (d : Directives) (hasMarker : Bool) : OpenDocument :=
  ⟨d, hasMarker, ∅, none, [], none⟩

/-- Reads a token. -/
def read (r : Reading) (t : Token) : Except Fault Reading :=
  match r, t with
  | .before d, .versionDirective .. => .before <$> d.add t
  | .before d, .tagDirective .. => .before <$> d.add t
  | .before d, .documentStart => .ok (.inside (openWith d true))
  | .before d, _ =>
    if d.hasVersion || !d.handles.isEmpty then .error .unexpectedToken
    else .inside <$> (openWith d false).read t
  | .inside d, .documentEnd => .behind <$> d.finish
  | .inside _, .documentStart => .error .severalDocuments
  | .inside _, .versionDirective .. => .error .severalDocuments
  | .inside _, .tagDirective .. => .error .severalDocuments
  | .inside d, _ => .inside <$> d.read t
  | .behind root, .documentEnd => .ok (.behind root)
  | .behind _, _ => .error .severalDocuments

/-- The document when the text ends here. -/
def finish : Reading → Except Fault Document
  | .before d =>
    if d.hasVersion || !d.handles.isEmpty then .error .unexpectedToken else .ok .empty
  | .inside d => Document.ofTree <$> d.finish
  | .behind root => .ok (.ofTree root)

end Reading

namespace Document

/-- The document that the tokens of a text make up. -/
def ofTokens (ts : List Token) : Except Fault Document := do
  (← ts.foldlM Reading.read (.before Directives.none)).finish

/-- The document that a text holds. -/
def parse (text : String) : Except Fault Document := do
  ofTokens (← tokens text)

end Document

end PipelineScript.Yaml
