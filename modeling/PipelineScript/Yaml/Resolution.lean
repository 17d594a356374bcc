import PipelineScript.Yaml.Digest
import PipelineScript.Yaml.OpenDocument

/-!
# Resolution

Resolution turns the tree of a document into its value.  A plain scalar is read as the first of
null, a truth value, an integer and a floating point number that its text is a form of, and as
text otherwise.  Aliases may be followed a bounded number of times, collections may be nested to
a bounded depth, and the keys of a mapping must differ.
-/

namespace PipelineScript.Yaml

open Number (Binary64 Decimal natural?)

/-! ### Plain scalars -/

/-- The text is a form of null. -/
def isNull (s : String) : Bool :=
  s == "~" || s == "null" || s == "Null" || s == "NULL"

/-- The truth value that a text is a form of. -/
def bool? (s : String) : Option Bool :=
  if s = "true" || s = "True" || s = "TRUE" then some true
  else if s = "false" || s = "False" || s = "FALSE" then some false
  else none

/-- Decimal digits, with or without a sign, that begin with a superfluous zero are text. -/
def isPaddedNumber (cs : List Char) : Bool :=
  let digits := match cs with
    | '-' :: r => r
    | '+' :: r => r
    | r => r
  match digits with
  | '0' :: d :: r => (d :: r).all Char.isDigit
  | _ => false

/-- The number that digits of the radix in front of them stand for. -/
def magnitude? : List Char → Option Nat
  | '0' :: 'x' :: cs => natural? 16 cs
  | '0' :: 'o' :: cs => natural? 8 cs
  | '0' :: 'b' :: cs => natural? 2 cs
  | cs => if isPaddedNumber cs then none else natural? 10 cs

/-- The integer that a text is a form of. -/
def integer? : List Char → Option Int
  | '+' :: cs => (magnitude? cs).map Int.ofNat
  | '-' :: cs => (magnitude? cs).map (-Int.ofNat ·)
  | cs => (magnitude? cs).map Int.ofNat

/-- The finite number that a numeral without a plus sign in front stands for. -/
def finiteNumber? (cs : List Char) : Option Binary64 :=
  ((Decimal.read? cs).map Binary64.ofDecimal).filter (·.isFinite)

/-- The floating point number that a text is a form of. -/
def real? (s : String) : Option Binary64 :=
  if s ∈ [".inf", ".Inf", ".INF", "+.inf", "+.Inf", "+.INF"] then some (.infinite false)
  else if s ∈ ["-.inf", "-.Inf", "-.INF"] then some (.infinite true)
  else if s ∈ [".nan", ".NaN", ".NAN"] then some .nan
  else
    match s.toList with
    | '+' :: '-' :: _ => none
    | '+' :: cs => finiteNumber? cs
    | cs => finiteNumber? cs

/-- The integer has at most `bits` bits, with a sign among them if it is negative. -/
def fits (bits : Nat) (n : Int) : Bool :=
  -(Nat.pow 2 (bits - 1) : Int) ≤ n && n < (Nat.pow 2 bits : Int)

/-- An integer as a value.  One that needs more than 64 bits is a fault, and one that needs more
than 128 bits is no integer. -/
def ofInteger? (n : Int) : Option (Except Fault Value) :=
  if fits 64 n then some (.ok (.integer n))
  else if fits 128 n then some (.error .integerTooLarge)
  else none

/-- The characters that a number may begin with. -/
def beginsNumber (c : Char) : Bool :=
  c.isDigit || c == '+' || c == '-' || c == '.'

/-- The value of a plain scalar that begins like a number. -/
def numberValue (s : String) : Except Fault Value :=
  match (integer? s.toList).bind ofInteger? with
  | some r => r
  | none =>
    match if isPaddedNumber s.toList then none else real? s with
    | some x => .ok (.real x)
    | none => .ok (.text s)

/-- The value of a plain scalar that does not begin like a number. -/
def wordValue (s : String) : Value :=
  if isNull s then .null
  else
    match bool? s with
    | some b => .bool b
    | none => .text s

/-- The value of a plain scalar without a tag. -/
def plainValue (s : String) : Except Fault Value :=
  match s.toList with
  | [] => .ok .null
  | c :: _ => if beginsNumber c then numberValue s else .ok (wordValue s)

/-! ### Tags -/

/-- A text read as a value of a type. -/
def CoreType.read (s : String) : CoreType → Except Fault Value
  | .bool => match bool? s with
    | some b => .ok (.bool b)
    | none => .error .tagMismatch
  | .integer => match (integer? s.toList).bind ofInteger? with
    | some r => r
    | none => .error .tagMismatch
  | .real => match real? s with
    | some x => .ok (.real x)
    | none => .error .tagMismatch
  | .null => if isNull s then .ok .null else .error .tagMismatch

/-- A value under the name of its tag. -/
def Value.withTag (tag : Option Tag) (v : Value) : Value :=
  match tag.bind Tag.name? with
  | some name => .tagged (unmarked name) v
  | none => v

/-- The value of a scalar regardless of its tag. -/
def Scalar.untaggedValue (s : Scalar) : Except Fault Value :=
  if s.style = .plain then plainValue s.text else .ok (.text s.text)

/-- The value of a scalar. -/
def Scalar.value (s : Scalar) : Except Fault Value :=
  match s.tag with
  | none => s.untaggedValue
  | some tag =>
    match CoreType.ofTag? tag with
    | some type => type.read s.text
    | none =>
      if tag.isLocal then Value.withTag tag <$> s.untaggedValue
      else .ok (.text s.text)

/-! ### Documents -/

/-- A computation that may follow a bounded number of aliases. -/
abbrev Resolving := StateT Nat (Except Fault)

/-- The node that an alias stands for; other nodes stand for themselves. -/
def Document.follow (d : Document) (t : Tree) : Resolving Tree := do
  match t with
  | .reference anchor =>
    let left ← get
    if left = 0 then throw .tooManyAliases
    set (left - 1)
    match d.target anchor with
    | some t => return t
    | none => throw .unknownAlias
  | t => return t

/-- The entries of a mapping in which each key is new. -/
def distinctEntries (es : List (Value × Value)) : Except Fault (List (Value × Value)) :=
  if Value.distinct (es.map Prod.fst) then .ok es else .error .duplicateKey

/-- The value of a tree in which collections are nested at most `depth` deep. -/
def Document.resolve (d : Document) : Nat → Tree → Resolving Value
  | depth, t => do
    match ← d.follow t with
    | .scalar _ s => s.value
    | .sequence _ tag items =>
      match depth with
      | 0 => throw .tooDeep
      | depth + 1 => return .withTag tag (.sequence (← items.mapM (d.resolve depth)))
    | .mapping _ tag entries =>
      match depth with
      | 0 => throw .tooDeep
      | depth + 1 =>
        let es ← entries.mapM fun e => do
          let k ← d.resolve depth e.1
          return (k, ← d.resolve depth e.2)
        return .withTag tag (.mapping (← distinctEntries es))
    | .reference _ => throw .unknownAlias

/-- The depth to which collections may be nested. -/
def maxNesting : Nat := 128

/-- The number of times that the aliases of a document may be followed. -/
def Document.aliasBound (d : Document) : Nat :=
  100 * d.events

/-- The value of a document, null if there is none. -/
def Document.value (d : Document) : Except Fault Value :=
  match d.root with
  | none => .ok .null
  | some t => Prod.fst <$> (d.resolve maxNesting t).run d.aliasBound

/-- The value of the document that a text holds. -/
def Value.parse (text : String) : Except Fault Value := do
  (← Document.parse text).value

end PipelineScript.Yaml
