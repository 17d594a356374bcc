import Mathlib.Tactic.Common

/-!
# The braces that bash expands

Bash looks for a brace that closes around a comma or two dots. A list with a comma is expanded, and
so is a range of numbers or letters that is well formed and not too long. A brace that does not
close in this way stands for itself, and so does one at the start of a word with its closing brace
right behind it. If there is more behind braces that are no range, it is read like a word of its
own.

Quotes and backslashes are still in the word when this happens. A mark tells the characters that are
quoted, and the quotes, from all others.
-/

namespace PipelineScript.Bash

/-- A character of a word, as it is written. -/
inductive Mark where
  /-- A character outside quotes. -/
  | bare (c : Char)
  /-- A character inside quotes, or behind a backslash. -/
  | quoted (c : Char)
  /-- A quote or a backslash, which is no part of the text. -/
  | delimiter (c : Char)
  deriving DecidableEq, Repr

namespace Mark

/-- The character that is written. -/
def char : Mark → Char
  | bare c | quoted c | delimiter c => c

/-- The character that the mark adds to the text of its word. -/
def text? : Mark → Option Char
  | bare c | quoted c => some c
  | delimiter _ => none

end Mark

/-! ### Lists -/

/-- Two dots, with something else than a closing brace behind them. -/
def isRange : List Mark → Bool
  | .bare '.' :: .bare '.' :: w => w.head? != some (.bare '\x7d')
  | _ => false

/-- What is inside a brace, up to the first closing brace of its own level that has a comma or a
range of its own level in front of it. -/
def inside? (level : Nat) (split : Bool) : List Mark → Option (List Mark)
  | [] => none
  | m :: w =>
    if m = .bare '\x7d' ∧ level = 0 ∧ split then some []
    else
      let level' := if m = .bare '\x7b' then level + 1
        else if m = .bare '\x7d' then level - 1 else level
      let split' := split || (level == 0 && (m == .bare ',' || isRange (m :: w)))
      (inside? level' split' w).map (m :: ·)

/-- There is a comma that is not behind a backslash. -/
def holdsComma : List Char → Bool
  | '\\' :: _ :: cs => holdsComma cs
  | c :: cs => c == ',' || holdsComma cs
  | [] => false

/-! ### Ranges -/

/-- The largest integer of bash. -/
def maxInteger : Int := 9223372036854775807

/-- The smallest integer of bash. -/
def minInteger : Int := -maxInteger - 1

/-- A range may not have more elements. -/
def maxElements : Nat := 2147483645

/-- A character that is passed over in front of a number. -/
def isSpace (c : Char) : Bool :=
  c == ' ' || ('\t' ≤ c && c ≤ '\r')

/-- The number with which a text begins, and what is behind it. -/
def readInteger? (cs : List Char) : Option (Int × List Char) :=
  let signed := cs.dropWhile isSpace
  let unsigned := if signed.head? = some '-' ∨ signed.head? = some '+' then signed.tail else signed
  let digits := unsigned.takeWhile Char.isDigit
  let n : Int := Nat.ofDigitChars 10 digits 0
  let n := if signed.head? = some '-' then -n else n
  if digits.isEmpty ∨ n < minInteger ∨ maxInteger < n then none
  else some (n, unsigned.dropWhile Char.isDigit)

/-- An end of a range. -/
inductive RangeEnd where
  | integer (n : Int)
  | letter (c : Char)
  deriving DecidableEq, Repr

/-- The end of a range in front of its dots. -/
def RangeEnd.first? (cs : List Char) : Option RangeEnd :=
  match readInteger? cs with
  | some (n, behind) =>
    if behind.all (fun c => c == ' ' || c == '\t') then some (.integer n) else none
  | none =>
    match cs with
    | [c] => if c.isAlpha then some (.letter c) else none
    | _ => none

/-- The end of a range behind its dots, and what is behind it. -/
def RangeEnd.last? (cs : List Char) : Option (RangeEnd × List Char) :=
  match cs with
  | [] => none
  | c :: behind =>
    if c.isAlpha then
      if behind.head?.all (· == '.') then some (.letter c, behind) else none
    else if isSpace c then none
    else (readInteger? cs).map fun (n, behind) => (.integer n, behind)

/-- The increment of a range behind its ends; it may be missing. -/
def increment? (cs : List Char) : Option Int :=
  match cs with
  | [] => some 1
  | '.' :: '.' :: cs =>
    match readInteger? cs with
    | some (n, []) => some n
    | _ => none
  | _ => none

/-- The range can be counted through. -/
def isBounded (first last increment : Int) : Bool :=
  let increment := if increment = 0 then 1 else increment
  !(first < last && increment == minInteger) &&
    !(0 < first && last < minInteger + 3 + first) &&
    !(first < 0 && maxInteger - 2 + first < last) &&
    (last - first).natAbs / increment.natAbs < maxElements

/-- The parts of a text in front of two dots and behind them. -/
def splitRange? : List Char → Option (List Char × List Char)
  | '.' :: '.' :: cs => some ([], cs)
  | c :: cs => (splitRange? cs).map fun (first, last) => (c :: first, last)
  | [] => none

/-- A range from one number or letter to another, maybe with an increment. -/
def isSequence (cs : List Char) : Bool :=
  ((splitRange? cs).bind fun (first, last) => do
    let first ← RangeEnd.first? first
    let (last, behind) ← RangeEnd.last? last
    let increment ← increment? behind
    match first, last with
    | .integer n, .integer m => some (isBounded n m increment)
    | .letter c, .letter d => some (isBounded c.toNat d.toNat increment)
    | _, _ => none).getD false

/-! ### Words -/

/-- Bash expands a brace in a word of which it has still to read `w`. The next characters, as many
as `skip` says, have been read already. `starts` tells that the one after them is the first of a
word, or of what is read like one. -/
def expandsFrom : Bool → Nat → List Mark → Bool
  | _, _, [] => false
  | starts, skip + 1, _ :: w => expandsFrom starts skip w
  | starts, 0, m :: w =>
    if m = .bare '\x7b' ∧ ¬(starts ∧ w.head?.all (· == .bare '\x7d')) then
      match inside? 0 false w with
      | none => expandsFrom false 0 w
      | some inside =>
        let written := inside.map Mark.char
        holdsComma written || isSequence written || expandsFrom true (inside.length + 1) w
    -- Behind an escaped blank a brace counts as the first character, too.
    else expandsFrom (m.char == ' ' || m.char == '\t') 0 w

/-- Bash expands a brace of the word. -/
def holdsBraces (w : List Mark) : Bool :=
  expandsFrom true 0 w

/-- Without a bare opening brace nothing is expanded. -/
theorem expandsFrom_of_not_mem {w : List Mark} (h : .bare '\x7b' ∉ w) (starts : Bool) (skip : Nat) :
    expandsFrom starts skip w = false := by
  induction w generalizing starts skip with
  | nil => cases skip <;> rfl
  | cons m w ih =>
    obtain ⟨hm, hw⟩ := not_or.1 (mt List.mem_cons.2 h)
    cases skip with
    | zero => rw [expandsFrom, if_neg fun hbrace => hm hbrace.1.symm, ih hw]
    | succ skip => exact ih hw starts skip

theorem holdsBraces_of_not_mem {w : List Mark} (h : .bare '\x7b' ∉ w) : holdsBraces w = false :=
  expandsFrom_of_not_mem h true 0

end PipelineScript.Bash
