/-!
# Tags

A tag is kept as bytes, because what its escapes stand for need not be text.  It ends before the
first zero byte.  A local tag begins with an exclamation mark and names something; the other tags
that count are those of four types.
-/

namespace PipelineScript.Yaml

/-- A tag of a node, or a part of one. -/
structure Tag where
  bytes : List UInt8
  deriving DecidableEq, Repr, Inhabited

namespace Tag

/-- The tag that some bytes make up. -/
def ofBytes (bytes : List UInt8) : Tag :=
  ⟨bytes.takeWhile (· ≠ 0)⟩

/-- The tag with a text. -/
def ofText (text : String) : Tag :=
  ofBytes text.toUTF8.toList

/-- The tag of nothing but an exclamation mark. -/
def bare : Tag := ofText "!"

/-- The tag of one part behind another. -/
def append (t u : Tag) : Tag :=
  ⟨t.bytes ++ u.bytes⟩

instance : Append Tag := ⟨append⟩

/-- The tag begins with an exclamation mark. -/
def isLocal (t : Tag) : Bool :=
  t.bytes.head? = bare.bytes.head?

/-- The name of a local tag, which stands behind the exclamation mark unless that stands alone.  A
tag whose name is not text has none. -/
def name? (t : Tag) : Option String :=
  if t = bare then some "!"
  else if t.isLocal then String.fromUTF8? ⟨(t.bytes.drop 1).toArray⟩
  else none

end Tag

/-- A name without the exclamation mark in front of it, unless that is all of it. -/
def unmarked (name : String) : String :=
  match name.toList with
  | '!' :: c :: cs => String.ofList (c :: cs)
  | _ => name

/-- The types that a tag can force on a scalar. -/
inductive CoreType where
  | bool
  | integer
  | real
  | null
  deriving DecidableEq, Repr

namespace CoreType

/-- The tag that forces a type. -/
def tag : CoreType → Tag
  | bool => .ofText "tag:yaml.org,2002:bool"
  | integer => .ofText "tag:yaml.org,2002:int"
  | real => .ofText "tag:yaml.org,2002:float"
  | null => .ofText "tag:yaml.org,2002:null"

/-- The type that a tag forces. -/
def ofTag? (t : Tag) : Option CoreType :=
  [bool, integer, real, null].find? (·.tag = t)

end CoreType

end PipelineScript.Yaml
