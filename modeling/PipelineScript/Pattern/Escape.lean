import PipelineScript.Number.Decimal
import PipelineScript.Pattern.Mode

/-!
# Escapes of a pattern

A backslash gives the character behind it a meaning or takes its meaning away.
-/

namespace PipelineScript.Pattern

/-- What a pattern asks for at one place. -/
inductive Atom where
  | character (c : Char)
  | set
  | anchor
  | wordBoundary
  deriving DecidableEq, Repr, Inhabited

/-- The character with the code point that the next `n` hexadecimal digits go on to write, `code`
being that of the digits before them. -/
def readCode (m : Mode) : (n code : Nat) → List Char → Option (Char × List Char)
  | 0, code, cs => if h : code.isValidChar then some (Char.ofNatAux code h, cs) else none
  | n + 1, code, cs =>
    match m.skip cs with
    | [] => none
    | d :: cs => (Number.digit? 16 d).bind fun v => readCode m n (16 * code + v) cs

/-- The letters of the general categories, which name sets. -/
def categoryLetters : List Char := ['c', 'l', 'm', 'n', 'p', 's', 'z']

/-- The control character that a letter stands for. -/
def controlCharacter? : Char → Option Char
  | 'a' => some '\x07'
  | 'f' => some '\x0c'
  | 'n' => some '\n'
  | 'r' => some '\r'
  | 't' => some '\t'
  | 'v' => some '\x0b'
  | _ => none

/-- What a single character means behind a backslash. -/
def escaped? (m : Mode) (c : Char) : Option Atom :=
  if c ∈ ['d', 's', 'w'] then some .set
  else if c ∈ ['D', 'S', 'W'] then if m.unicode then some .set else none
  else if c ∈ ['A', 'z'] then some .anchor
  else if c ∈ ['b', 'B', '<', '>'] then some .wordBoundary
  else if c.val < 0x80 && !c.isAlphanum then some (.character c)
  else (controlCharacter? c).map .character

/-- Reads an escape behind its backslash.  Over ASCII there are no general categories and no
complements of sets, and two hexadecimal digits write a byte. -/
def readEscape (m : Mode) : List Char → Option (Atom × List Char)
  | [] => none
  | 'x' :: cs => do
    let (c, cs) ← readCode m 2 0 cs
    if m.unicode || c.val < 0x80 then some (.character c, cs) else none
  | 'u' :: cs => (readCode m 4 0 cs).map fun (c, cs) => (.character c, cs)
  | 'U' :: cs => (readCode m 8 0 cs).map fun (c, cs) => (.character c, cs)
  | c :: cs =>
    if c = 'p' || c = 'P' then
      match m.skip cs with
      | [] => none
      | letter :: cs =>
        if m.unicode && letter.toLower ∈ categoryLetters then some (.set, cs) else none
    else (escaped? m c).map (·, cs)

end PipelineScript.Pattern
