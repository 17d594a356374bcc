import PipelineScript.Yaml.Character
import PipelineScript.Yaml.Tag

/-!
# Tokens of a document

A text is first cut into tokens.  The starts and ends of block collections, which only the
indentation shows, are tokens of their own.
-/

namespace PipelineScript.Yaml

/-- How a scalar is written. -/
inductive Style where
  | plain
  | singleQuoted
  | doubleQuoted
  | literal
  | folded
  deriving DecidableEq, Repr, Inhabited

/-- A token of a document. -/
inductive Token where
  | versionDirective (major minor : Nat)
  | tagDirective (handle : String) (replacement : Tag)
  | documentStart
  | documentEnd
  | blockSequenceStart
  | blockMappingStart
  | blockEnd
  | flowSequenceStart
  | flowSequenceEnd
  | flowMappingStart
  | flowMappingEnd
  | blockEntry
  | flowEntry
  | key
  | value
  | reference (name : String)
  | anchor (name : String)
  | tag (handle : String) (suffix : Tag)
  | scalar (text : String) (style : Style)
  deriving DecidableEq, Repr, Inhabited

/-- A place in a text. -/
structure Mark where
  line : Nat
  /-- The number of characters before it in its line. -/
  column : Nat
  /-- The number of bytes before it in its line. -/
  width : Nat
  deriving Repr, Inhabited

namespace Mark

/-- The start of a text. -/
def start : Mark := ⟨0, 0, 0⟩

/-- The place behind a character that ends no line. -/
def past (m : Mark) (c : Char) : Mark :=
  { m with column := m.column + 1, width := m.width + c.utf8Size }

/-- The place behind `n` characters of one byte each. -/
def skip (m : Mark) (n : Nat) : Mark :=
  { m with column := m.column + n, width := m.width + n }

/-- The start of the next line. -/
def nextLine (m : Mark) : Mark :=
  ⟨m.line + 1, 0, 0⟩

end Mark

/-- What is left of a text, and the place where that begins. -/
structure Cursor where
  rest : List Char
  mark : Mark
  deriving Repr, Inhabited

namespace Cursor

/-- The column of a cursor. -/
def column (c : Cursor) : Nat := c.mark.column

/-- The cursor behind the next `n` characters, none of which ends a line. -/
def advance (c : Cursor) (n : Nat) : Cursor :=
  ⟨c.rest.drop n, (c.rest.take n).foldl Mark.past c.mark⟩

/-- The cursor behind the next characters that satisfy `p`, none of which ends a line. -/
def skipWhile (c : Cursor) (p : Char → Bool) : Cursor :=
  c.advance (c.rest.takeWhile p).length

/-- The cursor at the start of the next line, if a line ends here. -/
def skipBreak (c : Cursor) : Cursor :=
  match c.rest with
  | [] => c
  | a :: cs => if isBreak a then ⟨cs, c.mark.nextLine⟩ else c

/-- The cursor behind the blanks and the comment that stand before the end of the line. -/
def skipComment (c : Cursor) : Cursor :=
  let c := c.skipWhile isBlank
  if c.rest.head? = some '#' then c.skipWhile (!isBreak ·) else c

end Cursor

end PipelineScript.Yaml
