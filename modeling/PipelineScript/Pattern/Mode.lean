import PipelineScript.Text.White

/-!
# Modes of a pattern

Flags in a group change how the pattern is read up to the end of the group.  Two of them bear on
whether it is well-formed: a pattern is over the characters of Unicode or over those of ASCII, and
in the extended mode white space and comments do not count.
-/

namespace PipelineScript.Pattern

/-- How a pattern is read at a place. -/
structure Mode where
  /-- The pattern is over the characters of Unicode. -/
  unicode : Bool
  /-- White space and comments do not count. -/
  extended : Bool
  deriving DecidableEq, Repr, Inhabited

/-- What is left behind white space and comments, where a comment begins with a number sign and
ends with its line.  The first argument tells whether the text begins inside a comment. -/
def skipComments : Bool → List Char → List Char
  | _, [] => []
  | true, c :: cs => skipComments (c ≠ '\n') cs
  | false, c :: cs =>
    if Text.isWhite c then skipComments false cs
    else if c = '#' then skipComments true cs
    else c :: cs

namespace Mode

/-- The mode at the start of a pattern. -/
def initial : Mode := ⟨true, false⟩

/-- What is left behind all that does not count in the mode. -/
def skip (m : Mode) (cs : List Char) : List Char :=
  if m.extended then skipComments false cs else cs

/-- The character that decides what a hyphen before `cs` is.  In the extended mode it is the first
one that is neither white space nor the first number sign, or else the next one. -/
def lookAhead (m : Mode) (cs : List Char) : Option Char :=
  if m.extended then
    let ahead := match cs.dropWhile Text.isWhite with
      | '#' :: cs => cs.dropWhile Text.isWhite
      | cs => cs
    ahead.head? <|> cs.head?
  else cs.head?

/-- The mode once a flag has been turned on or off. -/
def set (m : Mode) (flag : Char) (on : Bool) : Mode :=
  match flag with
  | 'u' => { m with unicode := on }
  | 'x' => { m with extended := on }
  | _ => m

end Mode

/-- The flags, and the sign behind which they are turned off. -/
def flags : List Char := ['i', 'm', 's', 'u', 'x', 'R', 'U', '-']

/-- Reads flags up to a colon or a closing parenthesis: the mode they lead to and what is left, from
that character on.  Nothing is written twice, the sign is not the last of them, and only a colon
may stand without any. -/
def readFlags (on : Bool) (seen : List Char) (m : Mode) : List Char → Option (Mode × List Char)
  | [] => none
  | c :: cs =>
    if c = ':' || c = ')' then
      if seen.head? = some '-' || (c = ')' && seen.isEmpty) then none else some (m, c :: cs)
    else if c ∈ flags && c ∉ seen then
      readFlags (on && c ≠ '-') (c :: seen) (m.set c on) cs
    else none

end PipelineScript.Pattern
