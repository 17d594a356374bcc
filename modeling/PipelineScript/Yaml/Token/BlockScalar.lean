import PipelineScript.Yaml.Token

/-!
# Block scalars

A block scalar holds the lines that are indented below its header.  A literal scalar keeps its
line ends; in a folded one a single line end between two lines that begin with no blank is read
as a space.  The header says what happens to the line ends behind the last line.
-/

namespace PipelineScript.Yaml

/-- What happens to the line ends behind the last line of a block scalar. -/
inductive Chomp where
  | strip
  | clip
  | keep
  deriving DecidableEq, Repr

/-- The header of a block scalar; without an indentation indicator the first line decides. -/
structure BlockHeader where
  chomp : Chomp
  increment : Option Nat

/-- The chomping indicator that a character is. -/
def chompIndicator? (c : Char) : Option Chomp :=
  if c = '+' then some .keep else if c = '-' then some .strip else none

/-- The indicators behind `|` or `>`, in either order, and the number of characters they take. -/
def blockIndicators : List Char → Except Fault (BlockHeader × Nat)
  | [] => .ok (⟨.clip, none⟩, 0)
  | a :: cs =>
    match chompIndicator? a with
    | some chomp =>
      match cs with
      | d :: _ =>
        if d = '0' then .error .badBlockHeader
        else if d.isDigit then .ok (⟨chomp, some (d.toNat - '0'.toNat)⟩, 2)
        else .ok (⟨chomp, none⟩, 1)
      | [] => .ok (⟨chomp, none⟩, 1)
    | none =>
      if a = '0' then .error .badBlockHeader
      else if a.isDigit then
        match cs.head?.bind chompIndicator? with
        | some chomp => .ok (⟨chomp, some (a.toNat - '0'.toNat)⟩, 2)
        | none => .ok (⟨.clip, some (a.toNat - '0'.toNat)⟩, 1)
      else .ok (⟨.clip, none⟩, 0)

/-- What has been read of the lines of a block scalar. -/
structure BlockLines where
  /-- The column where the lines begin, `none` until a line shows it. -/
  indent : Option Nat
  /-- The greatest column of a line so far, while the indentation is not known. -/
  widest : Nat
  /-- The text before the last line end, in reverse order. -/
  read : List Char
  /-- The line end of the last line that holds text. -/
  lastBreak : List Char
  /-- The line ends of the empty lines behind it, in reverse order. -/
  emptyLines : List Char
  /-- The last line that holds text begins with a blank. -/
  startsBlank : Bool

namespace BlockLines

/-- What stands between the last line of a scalar and a next one that begins with `c`, in reverse
order. -/
def joint (b : BlockLines) (literal : Bool) (c : Char) : List Char :=
  if !literal && b.lastBreak == ['\n'] && !b.startsBlank && !isBlank c then
    if b.emptyLines.isEmpty then [' '] else b.emptyLines
  else b.emptyLines ++ b.lastBreak

/-- Begins a line whose first character is `c`. -/
def beginLine (b : BlockLines) (literal : Bool) (c : Char) : BlockLines :=
  { b with
    read := c :: (b.joint literal c ++ b.read)
    lastBreak := []
    emptyLines := []
    startsBlank := isBlank c }

/-- The text of the scalar when no line follows. -/
def text (b : BlockLines) (chomp : Chomp) : List Char :=
  match chomp with
  | .strip => b.read.reverse
  | .clip => (b.lastBreak ++ b.read).reverse
  | .keep => (b.emptyLines ++ b.lastBreak ++ b.read).reverse

end BlockLines

/-- Reads the lines of a block scalar; `inLine` holds within a line that has text, and `least` is
the smallest column where lines may begin. -/
def blockFrom (literal : Bool) (least : Nat) :
    List Char → Mark → Bool → BlockLines → Except Fault (BlockLines × Cursor)
  | [], m, _, b => .ok (b, ⟨[], m⟩)
  | c :: cs, m, true, b =>
    if isBreak c then
      blockFrom literal least cs m.nextLine false { b with lastBreak := [c] }
    else
      blockFrom literal least cs (m.past c) true { b with read := c :: b.read }
  | c :: cs, m, false, b =>
    let inIndentation := b.indent.all (m.column < ·)
    if c == ' ' && inIndentation then
      blockFrom literal least cs (m.past c) false b
    else if c == '\t' && inIndentation then
      .error .tabInIndentation
    else if isBreak c then
      blockFrom literal least cs m.nextLine false
        { b with emptyLines := c :: b.emptyLines, widest := max b.widest m.column }
    else
      let indent := b.indent.getD (max (max b.widest m.column) least)
      if m.column = indent then
        blockFrom literal least cs (m.past c) true
          ({ b with indent := some indent }.beginLine literal c)
      else
        .ok ({ b with indent := some indent }, ⟨c :: cs, m⟩)

/-- The block scalar whose indicator stands at a cursor, in a collection whose entries begin at
column `parent`. -/
def blockScalar (literal : Bool) (parent : Int) (c : Cursor) :
    Except Fault (List Char × Cursor) := do
  let (header, n) ← blockIndicators (c.rest.drop 1)
  let c := (c.advance (1 + n)).skipComment
  if !startsBreak c.rest then throw .badBlockHeader
  let c := c.skipBreak
  let indent := header.increment.map (fun i => (max parent 0).toNat + i)
  let least := (max (parent + 1) 1).toNat
  let (b, behind) ←
    blockFrom literal least c.rest c.mark false ⟨indent, 0, [], [], [], false⟩
  return (b.text header.chomp, behind)

end PipelineScript.Yaml
