/-!
# Decimal numerals

A numeral is read as an integer times a power of ten, and digits are written from one.
-/

namespace PipelineScript.Number

/-- The value of a digit in any radix up to sixteen. -/
def digit? (radix : Nat) (c : Char) : Option Nat :=
  let v :=
    if '0' ≤ c && c ≤ '9' then c.toNat - '0'.toNat
    else if 'a' ≤ c && c ≤ 'f' then c.toNat - 'a'.toNat + 10
    else if 'A' ≤ c && c ≤ 'F' then c.toNat - 'A'.toNat + 10
    else radix
  if v < radix then some v else none

/-- The number that one or more digits stand for. -/
def natural? (radix : Nat) (cs : List Char) : Option Nat :=
  if cs.isEmpty then none
  else cs.foldlM (fun v c => (digit? radix c).map (radix * v + ·)) 0

/-- The number `±coefficient · 10 ^ exponent`. -/
structure Decimal where
  negative : Bool
  coefficient : Nat
  exponent : Int
  deriving DecidableEq, Repr, Inhabited

namespace Decimal

/-- The number that digits stand for, none for zero. -/
def digitsValue (cs : List Char) : Nat :=
  cs.foldl (fun v c => 10 * v + (c.toNat - '0'.toNat)) 0

/-- The exponent part of a numeral. -/
def exponent? : List Char → Option Int
  | [] => some 0
  | e :: cs =>
    if e = 'e' || e = 'E' then
      match cs with
      | '-' :: cs => (natural? 10 cs).map (-Int.ofNat ·)
      | '+' :: cs => (natural? 10 cs).map Int.ofNat
      | cs => (natural? 10 cs).map Int.ofNat
    else none

/-- An unsigned numeral: digits with a point among, before or behind them, and perhaps an
exponent. -/
def unsigned? (negative : Bool) (cs : List Char) : Option Decimal :=
  let whole := cs.takeWhile Char.isDigit
  let behind := cs.dropWhile Char.isDigit
  let (fraction, rest) := match behind with
    | '.' :: r => (r.takeWhile Char.isDigit, r.dropWhile Char.isDigit)
    | r => ([], r)
  if whole.isEmpty && fraction.isEmpty then none
  else
    (exponent? rest).map fun e =>
      ⟨negative, digitsValue (whole ++ fraction), e - fraction.length⟩

/-- A numeral with an optional minus sign. -/
def read? : List Char → Option Decimal
  | '-' :: cs => unsigned? true cs
  | cs => unsigned? false cs

end Decimal

end PipelineScript.Number
