import PipelineScript.Number.Binary64

/-!
# Texts of floating point numbers

The digits of a number are laid out with a point among them or with an exponent behind them; a
layout says which, and how the numbers that have no digits are written.
-/

namespace PipelineScript.Number

/-- How a floating point number is written. -/
structure Layout where
  /-- With a point before the digit at this place, counted from the first digit, no exponent is
  written. -/
  isPositional : Int → Bool
  /-- Which of two equally near texts with the fewest digits is taken. -/
  tie : Tie
  nan : String
  infinity : String

namespace Layout

/-- Digits with a point before the one at place `p`, and `.0` behind a whole number. -/
def positional (digits : List Char) (p : Int) : List Char :=
  if p ≤ 0 then "0.".toList ++ List.replicate (-p).toNat '0' ++ digits
  else if digits.length ≤ p then
    digits ++ List.replicate (p.toNat - digits.length) '0' ++ ".0".toList
  else digits.take p.toNat ++ '.' :: digits.drop p.toNat

/-- Digits with a point behind the first one, and an exponent. -/
def scientific (digits : List Char) (p : Int) : List Char :=
  let exponent := 'e' :: (toString (p - 1)).toList
  match digits with
  | [d] => d :: exponent
  | d :: ds => d :: '.' :: ds ++ exponent
  | [] => exponent

/-- The text of a positive or zero number. -/
def magnitude (l : Layout) (mantissa : Nat) (exponent : Int) : List Char :=
  if mantissa = 0 then "0.0".toList
  else
    let (d, k) := Binary64.shortest l.tie mantissa exponent
    let (d, k) := stripZeros 24 d k
    let digits := Nat.toDigits 10 d
    let p := digits.length + k
    if l.isPositional p then positional digits p else scientific digits p

/-- The text of a number. -/
def write (l : Layout) (x : Binary64) : String :=
  let signed (negative : Bool) (cs : List Char) : String :=
    String.ofList (if negative then '-' :: cs else cs)
  match x with
  | .finite negative mantissa exponent => signed negative (l.magnitude mantissa exponent)
  | .infinite negative => signed negative l.infinity.toList
  | .nan => l.nan

/-- The layout of the numbers of a document: from `1e-5` and below `1e16` without an exponent, and
a tie to the even digit. -/
def document : Layout := ⟨fun p => -5 < p && p ≤ 16, .toEven, ".nan", ".inf"⟩

/-- The layout of numbers in messages, which never has an exponent; a tie goes away from zero. -/
def message : Layout := ⟨fun _ => true, .up, "NaN", "inf"⟩

end Layout

end PipelineScript.Number
