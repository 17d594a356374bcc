import PipelineScript.Yaml.Token

/-!
# Plain and quoted scalars

A scalar may run over several lines.  The blanks around a line end are dropped; a single line end
is read as a space, and of several line ends the first is dropped.  `Gap` holds what stands between
two words of a scalar until the next word shows that it is part of the text.
-/

namespace PipelineScript.Yaml

/-- What stands between two words of a scalar; of several characters the last one comes first. -/
inductive Gap where
  /-- Blanks within a line. -/
  | inLine (blanks : List Char)
  /-- The first line end, unless it was escaped, and the later ones. -/
  | folded (first : Option Char) (later : List Char)
  deriving Repr, Inhabited

namespace Gap

/-- Nothing stands between. -/
def empty : Gap := .inLine []

/-- A word has begun and not ended yet. -/
def isEmpty : Gap → Bool
  | .inLine [] => true
  | _ => false

/-- A line end stands between. -/
def isFolded : Gap → Bool
  | .inLine _ => false
  | .folded .. => true

/-- Blanks behind a line end are dropped. -/
def addBlank (c : Char) : Gap → Gap
  | .inLine blanks => .inLine (c :: blanks)
  | gap => gap

/-- Blanks before a line end are dropped. -/
def addBreak (c : Char) : Gap → Gap
  | .inLine _ => .folded (some c) []
  | .folded first later => .folded first (c :: later)

/-- What the gap adds to the text of the scalar, the last character first. -/
def read : Gap → List Char
  | .inLine blanks => blanks
  | .folded (some '\n') [] => [' ']
  | .folded (some '\n') later => later
  | .folded first later => later ++ first.toList

end Gap

/-- A scalar that has been read: its text, whether the last gap held a line end, and the place
behind it. -/
structure ScalarScan where
  text : List Char
  endsLine : Bool
  behind : Cursor

/-! ### Plain scalars -/

/-- In flow context a colon before one of these characters is refused. -/
def isFlowIndicatorOrMark (c : Char) : Bool :=
  c == ',' || c == '?' || c == '[' || c == ']' || c == '{' || c == '}'

/-- The characters that end a plain scalar in flow context. -/
def isFlowIndicator (c : Char) : Bool :=
  c == ',' || c == '[' || c == ']' || c == '{' || c == '}'

/-- A word of a plain scalar does not begin with `c :: cs`: the line is not indented enough, a
document marker stands here, or a comment. -/
def endsPlainAtWord (flow : Bool) (indent : Int) (column : Nat) (cs : List Char) : Bool :=
  (!flow && column < indent) || (column == 0 && startsDocumentMarker cs) || cs.head? == some '#'

/-- Reads on in a plain scalar of which `read` holds the text in reverse order and `gap` what came
behind it. -/
def plainFrom (flow : Bool) (indent : Int) :
    List Char → Mark → List Char → Gap → Except Fault ScalarScan
  | [], m, read, gap => .ok ⟨read.reverse, gap.isFolded, ⟨[], m⟩⟩
  | c :: cs, m, read, gap =>
    if isBreak c then
      plainFrom flow indent cs m.nextLine read (gap.addBreak c)
    else if isBlank c then
      if gap.isFolded && m.column < indent && c == '\t' then .error .tabInIndentation
      else plainFrom flow indent cs (m.past c) read (gap.addBlank c)
    else if !gap.isEmpty && endsPlainAtWord flow indent m.column (c :: cs) then
      .ok ⟨read.reverse, gap.isFolded, ⟨c :: cs, m⟩⟩
    else if flow && c == ':' && cs.head?.any isFlowIndicatorOrMark then
      .error .unexpectedCharacter
    else if (c == ':' && startsBlank cs) || (flow && isFlowIndicator c) then
      .ok ⟨read.reverse, gap.isFolded, ⟨c :: cs, m⟩⟩
    else
      plainFrom flow indent cs (m.past c) (c :: (gap.read ++ read)) .empty

/-- The plain scalar that begins at a cursor. -/
def plainScalar (flow : Bool) (indent : Int) (c : Cursor) : Except Fault ScalarScan :=
  plainFrom flow indent c.rest c.mark [] .empty

/-! ### Quoted scalars -/

/-- Reads on behind the opening single quote. -/
def singleQuotedFrom :
    List Char → Mark → List Char → Gap → Except Fault ScalarScan
  | [], _, _, _ => .error .unfinishedScalar
  | '\'' :: '\'' :: cs, m, read, gap =>
    singleQuotedFrom cs (m.skip 2) ('\'' :: (gap.read ++ read)) .empty
  | '\'' :: cs, m, read, gap =>
    .ok ⟨(gap.read ++ read).reverse, false, ⟨cs, m.skip 1⟩⟩
  | c :: cs, m, read, gap =>
    if isBreak c then
      singleQuotedFrom cs m.nextLine read (gap.addBreak c)
    else if isBlank c then
      singleQuotedFrom cs (m.past c) read (gap.addBlank c)
    else if m.column == 0 && startsDocumentMarker (c :: cs) then
      .error .unfinishedScalar
    else
      singleQuotedFrom cs (m.past c) (c :: (gap.read ++ read)) .empty

/-- The value of a hexadecimal digit. -/
def hexDigit? (c : Char) : Option Nat :=
  if '0' ≤ c && c ≤ '9' then some (c.toNat - '0'.toNat)
  else if 'a' ≤ c && c ≤ 'f' then some (c.toNat - 'a'.toNat + 10)
  else if 'A' ≤ c && c ≤ 'F' then some (c.toNat - 'A'.toNat + 10)
  else none

/-- The number that `n` hexadecimal digits at the start of a text stand for. -/
def hexNumber? (n : Nat) (cs : List Char) : Option Nat :=
  let digits := cs.take n
  if digits.length < n then none
  else digits.foldlM (fun v c => (hexDigit? c).map (16 * v + ·)) 0

/-- The character that `n` hexadecimal digits name. -/
def hexEscape? (n : Nat) (cs : List Char) : Option (Char × Nat) :=
  (hexNumber? n cs).bind fun v =>
    if h : v.isValidChar then some (Char.ofNatAux v h, n + 1) else none

/-- The character that an escape sequence names and the number of characters behind the backslash
that it takes. -/
def escape? : List Char → Option (Char × Nat)
  | [] => none
  | c :: cs =>
    match c with
    | '0' => some ('\x00', 1)
    | 'a' => some ('\x07', 1)
    | 'b' => some ('\x08', 1)
    | 't' => some ('\t', 1)
    | '\t' => some ('\t', 1)
    | 'n' => some ('\n', 1)
    | 'v' => some ('\x0B', 1)
    | 'f' => some ('\x0C', 1)
    | 'r' => some ('\r', 1)
    | 'e' => some ('\x1B', 1)
    | ' ' => some (' ', 1)
    | '"' => some ('"', 1)
    | '/' => some ('/', 1)
    | '\\' => some ('\\', 1)
    | 'N' => some ('\u0085', 1)
    | '_' => some ('\u00A0', 1)
    | 'L' => some ('\u2028', 1)
    | 'P' => some ('\u2029', 1)
    | 'x' => hexEscape? 2 cs
    | 'u' => hexEscape? 4 cs
    | 'U' => hexEscape? 8 cs
    | _ => none

/-- Reads on behind the opening double quote; the next `skip` characters belong to an escape
sequence that has been read already, and the place is the one behind them. -/
def doubleQuotedFrom :
    List Char → Nat → Mark → List Char → Gap → Except Fault ScalarScan
  | [], _, _, _, _ => .error .unfinishedScalar
  | _ :: cs, skip + 1, m, read, gap =>
    doubleQuotedFrom cs skip m read gap
  | c :: cs, 0, m, read, gap =>
    if isBreak c then
      doubleQuotedFrom cs 0 m.nextLine read (gap.addBreak c)
    else if isBlank c then
      doubleQuotedFrom cs 0 (m.past c) read (gap.addBlank c)
    else if m.column == 0 && startsDocumentMarker (c :: cs) then
      .error .unfinishedScalar
    else if c == '"' then
      .ok ⟨(gap.read ++ read).reverse, false, ⟨cs, m.skip 1⟩⟩
    else if c == '\\' then
      if cs.head?.any isBreak then
        doubleQuotedFrom cs 1 m.nextLine (gap.read ++ read) (.folded none [])
      else
        match escape? cs with
        | none => .error .unknownEscape
        | some (e, n) =>
          doubleQuotedFrom cs n (m.skip (1 + n)) (e :: (gap.read ++ read)) .empty
    else
      doubleQuotedFrom cs 0 (m.past c) (c :: (gap.read ++ read)) .empty

/-- The quoted scalar that begins at a cursor. -/
def quotedScalar (double : Bool) (c : Cursor) : Except Fault ScalarScan :=
  let c := c.advance 1
  if double then doubleQuotedFrom c.rest 0 c.mark [] .empty
  else singleQuotedFrom c.rest c.mark [] .empty

end PipelineScript.Yaml
