import PipelineScript.Pattern.Bracket
import PipelineScript.Text.Alphanumeric

/-!
# Patterns

A pattern is a regular expression that an automaton is to match.  It is read to its end, and nothing
is kept of it but how deep its parts are nested and whether it asks for the bounds of words of
Unicode, which an automaton cannot find.  A pattern holds no closing brace, so that no opening one
can begin a counted repetition.
-/

namespace PipelineScript.Pattern

/-- Why a pattern cannot be used. -/
inductive Fault where
  | malformed
  | unicodeWordBoundary
  deriving DecidableEq, Repr, Inhabited

/-- What is told about a pattern that cannot be used. -/
def Fault.message : Fault → String
  | malformed => "error building NFA"
  | unicodeWordBoundary => "unsupported regex feature for DFAs: cannot build DFAs for regexes " ++
      "with Unicode word boundaries; switch to ASCII word boundaries, or heuristically enable " ++
      "Unicode word boundaries or use a different regex engine"

/-- A part of a row. -/
structure Part where
  depth : Nat
  /-- A repetition may follow. -/
  repeatable : Bool
  deriving Repr, Inhabited

/-- A group that has not been closed, or the whole pattern. -/
structure OpenGroup where
  /-- The mode behind the group. -/
  outside : Mode
  /-- The depths of the alternatives before the last one. -/
  alternatives : List Nat
  /-- The parts of the last alternative, the last of them first. -/
  parts : List Part
  deriving Repr, Inhabited

namespace OpenGroup

/-- The group with one more part. -/
def add (g : OpenGroup) (p : Part) : OpenGroup :=
  { g with parts := p :: g.parts }

/-- The depths of all alternatives. -/
def branches (g : OpenGroup) : List Nat :=
  rowDepth (g.parts.map Part.depth) :: g.alternatives

/-- The depth of what is in the group. -/
def innerDepth (g : OpenGroup) : Nat := rowDepth g.branches

/-- The group at the start of its next alternative. -/
def nextAlternative (g : OpenGroup) : OpenGroup :=
  { g with alternatives := g.branches, parts := [] }

/-- The group with its last part repeated. -/
def repeatLast? (g : OpenGroup) : Option OpenGroup :=
  match g.parts with
  | [] => none
  | p :: parts =>
    if p.repeatable then some { g with parts := ⟨p.depth + 1, true⟩ :: parts } else none

end OpenGroup

/-- What has been read of a pattern. -/
structure Reader where
  mode : Mode
  inner : OpenGroup
  /-- The groups around the innermost one, from the inside. -/
  outer : List OpenGroup
  /-- The names of groups. -/
  names : List String
  /-- The bounds of words of Unicode have been asked for. -/
  boundary : Bool
  deriving Repr, Inhabited

/-- The name may be given to a group. -/
def isGroupName : List Char → Bool
  | [] => false
  | c :: cs =>
    (c == '_' || Text.isAlphabetic c) &&
      cs.all fun c => c ∈ ['_', '.', '[', ']'] || Text.isAlphanumeric c

namespace Reader

/-- Nothing has been read. -/
def start : Reader := ⟨.initial, ⟨.initial, [], []⟩, [], [], false⟩

/-- The reader behind a part. -/
def add (r : Reader) (p : Part) : Reader :=
  { r with inner := r.inner.add p }

/-- The reader behind an atom. -/
def addAtom (r : Reader) (a : Atom) : Reader :=
  { r.add ⟨0, true⟩ with boundary := r.boundary || (a == .wordBoundary && r.mode.unicode) }

/-- The reader inside a new group with a mode of its own. -/
def enter (r : Reader) (m : Mode) : Reader :=
  { r with mode := m, inner := ⟨r.mode, [], []⟩, outer := r.inner :: r.outer }

/-- The reader behind the innermost group. -/
def leave? (r : Reader) : Option Reader :=
  match r.outer with
  | [] => none
  | next :: outer =>
    some { r with
      mode := r.inner.outside
      inner := next.add ⟨r.inner.innerDepth + 1, true⟩
      outer := outer }

/-- Reads the name of a group, which no other group has, behind its opening angle bracket. -/
def enterNamed? (r : Reader) (cs : List Char) : Option (Reader × List Char) :=
  let name := cs.takeWhile (· ≠ '>')
  match cs.dropWhile (· ≠ '>') with
  | [] => none
  | _ :: cs =>
    if isGroupName name && String.ofList name ∉ r.names then
      some ({ r.enter r.mode with names := String.ofList name :: r.names }, cs)
    else none

/-- Reads what is behind an opening parenthesis up to the parts of the group.  Flags without parts
are for the rest of the group around them. -/
def enter? (r : Reader) (cs : List Char) : Option (Reader × List Char) :=
  match r.mode.skip cs with
  | '?' :: 'P' :: '<' :: cs => r.enterNamed? cs
  | '?' :: '<' :: cs => r.enterNamed? cs
  | '?' :: cs => do
    match ← readFlags true [] r.mode cs with
    | (m, ':' :: cs) => some (r.enter m, cs)
    | (m, cs) => some ({ r.add ⟨0, false⟩ with mode := m }, cs.tail)
  | cs => some (r.enter r.mode, cs)

/-- Reads the part of a pattern that begins with a character. -/
def step (fuel : Nat) (r : Reader) (c : Char) (cs : List Char) : Option (Reader × List Char) :=
  match c with
  | '(' => r.enter? cs
  | ')' => r.leave?.map (·, cs)
  | '|' => some ({ r with inner := r.inner.nextAlternative }, cs)
  | '[' => (readSet r.mode fuel cs).map fun (depth, cs) => (r.add ⟨depth, true⟩, cs)
  | '\\' => (readEscape r.mode cs).map fun (a, cs) => (r.addAtom a, cs)
  | '.' => if r.mode.unicode then some (r.addAtom .set, cs) else none
  | '\x7b' => none
  | c =>
    if c = '?' || c = '*' || c = '+' then
      r.inner.repeatLast?.map fun g =>
        ({ r with inner := g }, if cs.head? = some '?' then cs.tail else cs)
    else some (r.addAtom (.character c), cs)

/-- Reads the rest of a pattern.  The fuel bounds the number of its parts. -/
def run : Nat → Reader → List Char → Option Reader
  | 0, _, _ => none
  | fuel + 1, r, cs =>
    match r.mode.skip cs with
    | [] => some r
    | c :: cs => (r.step fuel c cs).bind fun (r, cs) => run fuel r cs

end Reader

/-- Parts may be nested this deep. -/
def maxDepth : Nat := 250

/-- Checks a pattern.  Each part has a character at least, so the fuel reaches to the end. -/
def check (cs : List Char) : Except Fault Unit :=
  match Reader.start.run (cs.length + 1) cs with
  | none => .error .malformed
  | some r =>
    if !r.outer.isEmpty || maxDepth < r.inner.innerDepth then .error .malformed
    else if r.boundary then .error .unicodeWordBoundary
    else .ok ()

end PipelineScript.Pattern
