import PipelineScript.Number.Layout
import PipelineScript.Yaml.Resolution

/-!
# Nodes

A node is what a definition file holds, without any meaning: every scalar is a text, and so is
every key of a mapping.
-/

namespace PipelineScript

open Yaml (Value Fault)

/-- A tree of texts. -/
inductive Node where
  | null
  | scalar (text : String)
  | sequence (items : List Node)
  | mapping (entries : List (String × Node))
  deriving Repr, Inhabited

namespace Node

/-- The value of a key of a mapping; the first of several counts. -/
def get? (n : Node) (key : String) : Option Node :=
  match n with
  | mapping entries => entries.lookup key
  | _ => none

/-- The text of a scalar. -/
def text? : Node → Option String
  | scalar text => some text
  | _ => none

/-- The items of a sequence. -/
def items? : Node → Option (List Node)
  | sequence items => some items
  | _ => none

/-- The entries of a mapping. -/
def entries? : Node → Option (List (String × Node))
  | mapping entries => some entries
  | _ => none

/-- The node is empty. -/
def isNull : Node → Bool
  | null => true
  | _ => false

mutual

/-- The text that a node is written as on one line. -/
def display : Node → String
  | null => ""
  | scalar text => text
  | sequence items => "[" ++ ", ".intercalate (displayItems items) ++ "]"
  | mapping entries => "\x7b" ++ ", ".intercalate (displayEntries entries) ++ "\x7d"

/-- The texts of the items of a sequence. -/
def displayItems : List Node → List String
  | [] => []
  | n :: ns => display n :: displayItems ns

/-- The texts of the entries of a mapping. -/
def displayEntries : List (String × Node) → List String
  | [] => []
  | (k, n) :: es => (k ++ ": " ++ display n) :: displayEntries es

end

mutual

/-- The node that a value is, with its scalars and keys as texts. -/
def ofValue : Value → Node
  | .null => null
  | .bool b => scalar (if b then "true" else "false")
  | .integer n => scalar (toString n)
  | .real x => scalar (Number.Layout.document.write x)
  | .text s => scalar s
  | .sequence items => sequence (ofItems items)
  | .mapping entries => mapping (ofEntries entries)
  | .tagged _ v => ofValue v

/-- The nodes that the items of a sequence are. -/
def ofItems : List Value → List Node
  | [] => []
  | v :: vs => ofValue v :: ofItems vs

/-- The entries that the entries of a mapping are. -/
def ofEntries : List (Value × Value) → List (String × Node)
  | [] => []
  | (k, v) :: es => ((ofValue k).display, ofValue v) :: ofEntries es

end

/-- The node that a text holds. -/
def parse (text : String) : Except Fault Node :=
  ofValue <$> Value.parse text

end Node

end PipelineScript
