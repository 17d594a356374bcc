import PipelineScript.Pattern.Escape

/-!
# Sets in brackets

A set in brackets lists characters, ranges of them and other sets, perhaps in several lists with
operators between them.  Reading one tells how deep it is nested.
-/

namespace PipelineScript.Pattern

/-- How deep a row of parts is nested: a single part stands for itself, and several ones are
joined by one more level. -/
def rowDepth : List Nat → Nat
  | [] => 0
  | [d] => d
  | ds => ds.foldl max 0 + 1

/-- A set whose closing bracket has not been read. -/
structure OpenSet where
  /-- The depth of what is before the last operator, if there is one. -/
  operand : Option Nat
  /-- The depths of the items behind the last operator. -/
  items : List Nat
  /-- The set holds nothing but the hyphens that it begins with. -/
  fresh : Bool
  deriving Repr, Inhabited

namespace OpenSet

/-- A set of which nothing has been read. -/
def start : OpenSet := ⟨none, [], true⟩

/-- The set with one more item of a depth. -/
def add (s : OpenSet) (depth : Nat) : OpenSet :=
  { s with items := depth :: s.items, fresh := false }

/-- The depth of the set without its brackets. -/
def innerDepth (s : OpenSet) : Nat :=
  match s.operand with
  | none => rowDepth s.items
  | some d => max d (rowDepth s.items) + 1

/-- The depth of the set. -/
def depth (s : OpenSet) : Nat := s.innerDepth + 1

/-- The set behind an operator. -/
def operate (s : OpenSet) : OpenSet := ⟨some s.innerDepth, [], false⟩

end OpenSet

/-- The names of sets of ASCII characters. -/
def asciiSetNames : List String :=
  ["alnum", "alpha", "ascii", "blank", "cntrl", "digit", "graph", "lower", "print", "punct",
    "space", "upper", "word", "xdigit"]

/-- What is left behind the name of a set, a colon and a closing bracket. -/
def behindSetName? (cs : List Char) : Option (List Char) :=
  match cs.dropWhile (· ≠ ':') with
  | ':' :: ']' :: rest =>
    if asciiSetNames.any (·.toList = cs.takeWhile (· ≠ ':')) then some rest else none
  | _ => none

/-- Reads a named set behind its opening bracket: whether it is the complement of the one that is
named, and what is left. -/
def namedSet? : List Char → Option (Bool × List Char)
  | ':' :: '^' :: cs => (behindSetName? cs).map (true, ·)
  | ':' :: cs => (behindSetName? cs).map (false, ·)
  | _ => none

/-- Reads a character or an escape in brackets. -/
def readMember (m : Mode) : List Char → Option (Atom × List Char)
  | [] => none
  | '\\' :: cs => readEscape m cs
  | c :: cs => some (.character c, cs)

/-- An atom may be listed in a set. -/
def Atom.isMember (m : Mode) : Atom → Bool
  | .character c => m.unicode || c.val < 0x80
  | .set => true
  | .anchor => false
  | .wordBoundary => false

/-- Two atoms are the ends of a range. -/
def Atom.isRange (m : Mode) : Atom → Atom → Bool
  | .character a, .character b => a ≤ b && (m.unicode || b.val < 0x80)
  | _, _ => false

/-- Reads an item of a set.  A hyphen behind it makes a range, unless a bracket or a hyphen
follows. -/
def readItem (m : Mode) (cs : List Char) : Option (List Char) := do
  let (first, cs) ← readMember m cs
  match m.skip cs with
  | '-' :: behind =>
    if m.lookAhead behind = some ']' || m.lookAhead behind = some '-' then
      if first.isMember m then some ('-' :: behind) else none
    else
      let (last, cs) ← readMember m (m.skip behind)
      if first.isRange m last then some cs else none
  | cs => if first.isMember m then some cs else none

/-- What is left behind the caret of a complement, if there is one.  There is no complement over
ASCII. -/
def behindCaret? (m : Mode) (cs : List Char) : Option (List Char) :=
  match m.skip cs with
  | '^' :: cs => if m.unicode then some cs else none
  | cs => some cs

/-- Reads the rest of a set, which is in the sets `outer`: its depth and what is left.  The fuel
bounds the number of items. -/
def readItems (m : Mode) : Nat → OpenSet → List OpenSet → List Char → Option (Nat × List Char)
  | 0, _, _, _ => none
  | fuel + 1, inner, outer, cs =>
    match m.skip cs with
    | [] => none
    | '-' :: '-' :: cs =>
      if inner.fresh then
        readItems m fuel { inner with items := 0 :: inner.items } outer ('-' :: cs)
      else readItems m fuel inner.operate outer cs
    | '&' :: '&' :: cs => readItems m fuel inner.operate outer cs
    | '~' :: '~' :: cs => readItems m fuel inner.operate outer cs
    | ']' :: cs =>
      if inner.fresh && inner.items.isEmpty then readItems m fuel (inner.add 0) outer cs
      else
        match outer with
        | [] => some (inner.depth, cs)
        | next :: outer => readItems m fuel (next.add inner.depth) outer cs
    | '[' :: cs =>
      match namedSet? cs with
      | some (complement, cs) =>
        if complement && !m.unicode then none else readItems m fuel (inner.add 0) outer cs
      | none => (behindCaret? m cs).bind (readItems m fuel .start (inner :: outer))
    | c :: cs =>
      if inner.fresh && c = '-' then
        readItems m fuel { inner with items := 0 :: inner.items } outer cs
      else (readItem m (c :: cs)).bind (readItems m fuel (inner.add 0) outer)

/-- Reads a set behind its opening bracket: its depth and what is left. -/
def readSet (m : Mode) (fuel : Nat) (cs : List Char) : Option (Nat × List Char) :=
  (behindCaret? m cs).bind (readItems m fuel .start [])

end PipelineScript.Pattern
