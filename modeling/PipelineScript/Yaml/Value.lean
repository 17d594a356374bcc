import PipelineScript.Number.Binary64

/-!
# Values

A value is what the tree of a document stands for once its aliases are followed and its scalars
are resolved.
-/

namespace PipelineScript.Yaml

open Number (Binary64)

/-- What a node stands for. -/
inductive Value where
  | null
  | bool (b : Bool)
  | integer (n : Int)
  | real (x : Binary64)
  | text (s : String)
  | sequence (items : List Value)
  | mapping (entries : List (Value × Value))
  /-- A node under the name of its local tag. -/
  | tagged (name : String) (content : Value)
  deriving Repr, Inhabited

namespace Value

mutual

/-- Equality of values; the order of the entries of a mapping does not count, and neither does the
sign of a zero. -/
def same : Value → Value → Bool
  | null, null => true
  | bool a, bool b => a == b
  | integer a, integer b => a == b
  | real a, real b => a.same b
  | text a, text b => a == b
  | sequence a, sequence b => sameItems a b
  | mapping a, mapping b => sameEntries a b
  | tagged s a, tagged t b => s == t && same a b
  | _, _ => false

/-- Equality of the values of two lists, one by one. -/
def sameItems : List Value → List Value → Bool
  | [], [] => true
  | a :: as, b :: bs => same a b && sameItems as bs
  | _, _ => false

/-- Equality of the entries of two lists in some order. -/
def sameEntries : List (Value × Value) → List (Value × Value) → Bool
  | [], bs => bs.isEmpty
  | (k, v) :: es, bs =>
    bs.any (fun b => same k b.1 && same v b.2) &&
      sameEntries es (bs.eraseP fun b => same k b.1 && same v b.2)

end

end Value

end PipelineScript.Yaml
