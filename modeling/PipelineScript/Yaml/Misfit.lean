import PipelineScript.Number.Layout
import PipelineScript.Text.Quoted
import PipelineScript.Yaml.Resolution

/-!
# Misfits

A misfit says where a well-formed document differs from the shape that is asked for: at a path of
keys and positions, something else was found than was expected.
-/

namespace PipelineScript.Yaml

/-- A step on the way from the root of a document to a node. -/
inductive Segment where
  | key (name : String)
  /-- The value of a key that is given by an alias. -/
  | unnamedKey
  | index (n : Nat)
  deriving DecidableEq, Repr

/-- A path of steps as one text. -/
def Segment.joined (path : List Segment) : String :=
  path.foldl (fun text s =>
    match s with
    | .index n => text ++ "[" ++ toString n ++ "]"
    | .key name => if text.isEmpty then name else text ++ "." ++ name
    | .unnamedKey => if text.isEmpty then "?" else text ++ ".?") ""

/-- What was found at a place. -/
inductive Found where
  | unit
  | bool (b : Bool)
  | integer (n : Int)
  | real (x : Number.Binary64)
  | text (s : String)
  | sequence
  | mapping
  deriving DecidableEq, Repr

namespace Found

/-- What a value is found as. -/
def ofValue : Value → Found
  | .null => unit
  | .bool b => bool b
  | .integer n => integer n
  | .real x => real x
  | .text s => text s
  | .sequence _ => sequence
  | .mapping _ => mapping
  | .tagged _ v => ofValue v

/-- What a node is found as. -/
def ofTree : Tree → Except Fault Found
  | .scalar _ s => ofValue <$> s.value
  | .sequence .. => .ok sequence
  | .mapping .. => .ok mapping
  | .reference _ => .error .unknownAlias

/-- The words for what was found. -/
def describe : Found → String
  | unit => "unit value"
  | bool b => "boolean `" ++ (if b then "true" else "false") ++ "`"
  | integer n => "integer `" ++ toString n ++ "`"
  | real x => "floating point `" ++ Number.Layout.message.write x ++ "`"
  | text s => "string " ++ Text.quoted s
  | sequence => "sequence"
  | mapping => "map"

end Found

/-- The way in which a document does not fit. -/
inductive Mismatch where
  | wrongType (found : Found) (expected : String)
  | wrongValue (found : Found) (expected : String)
  | unknownField (name : String) (known : List String)
  | duplicateField (name : String)
  | unknownVariant (name : String) (known : List String)
  | noDocument
  deriving Repr

/-- Alternatives in a message. -/
def alternatives (names : List String) : String :=
  let quoted := names.map fun n => "`" ++ n ++ "`"
  match quoted with
  | [a] => a
  | [a, b] => a ++ " or " ++ b
  | _ => "one of " ++ ", ".intercalate quoted

/-- The words for a mismatch. -/
def Mismatch.message : Mismatch → String
  | wrongType found expected => s!"invalid type: {found.describe}, expected {expected}"
  | wrongValue found expected => s!"invalid value: {found.describe}, expected {expected}"
  | unknownField name known => s!"unknown field `{name}`, expected {alternatives known}"
  | duplicateField name => s!"duplicate field `{name}`"
  | unknownVariant name known => s!"unknown variant `{name}`, expected {alternatives known}"
  | noDocument => "EOF while parsing a value"

/-- A place where a document does not fit, and how. -/
structure Misfit where
  path : List Segment
  mismatch : Mismatch
  deriving Repr

/-- What is told about a misfit. -/
def Misfit.message (m : Misfit) : String :=
  if m.path.isEmpty then m.mismatch.message
  else Segment.joined m.path ++ ": " ++ m.mismatch.message

/-- The reason why a text was not read as a value of the shape that is asked for. -/
inductive Problem where
  /-- The text is not one well-formed document. -/
  | fault (f : Fault)
  /-- The document does not fit. -/
  | misfit (m : Misfit)
  deriving Repr

/-- What is told about a problem. -/
def Problem.message : Problem → String
  | fault f => f.message
  | misfit m => m.message

end PipelineScript.Yaml
