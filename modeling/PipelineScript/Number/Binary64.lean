import PipelineScript.Number.Decimal

/-!
# Floating point numbers

A number of the format binary64 is kept as the integer and the power of two that it is made of.
A decimal is rounded to the nearest one, a tie to the even integer, and a number is written with
the fewest digits that are rounded back to it.  Of the texts with so few digits the nearest one is
taken; where two are equally near, a `Tie` says which.
-/

namespace PipelineScript.Number

/-- Which of two integers is taken that are equally near. -/
inductive Tie where
  | toEven
  | up
  deriving DecidableEq, Repr, Inhabited

/-- The quotient of two natural numbers, rounded to the nearest one. -/
def roundQuotient (tie : Tie) (n d : Nat) : Nat :=
  let q := n / d
  let r := 2 * (n % d)
  if r < d || (r = d && tie = .toEven && q % 2 = 0) then q else q + 1

/-- A number of the format binary64.  A finite number is `±mantissa · 2 ^ exponent` with a
mantissa below `2 ^ 53` that reaches `2 ^ 52` unless the exponent is `-1074`. -/
inductive Binary64 where
  | finite (negative : Bool) (mantissa : Nat) (exponent : Int)
  | infinite (negative : Bool)
  | nan
  deriving DecidableEq, Repr, Inhabited

namespace Binary64

/-- The quotient `n / d` in units of `2 ^ e`, as a quotient of natural numbers. -/
def inUnits (n d : Nat) (e : Int) : Nat × Nat :=
  (n * Nat.pow 2 (-e).toNat, d * Nat.pow 2 e.toNat)

/-- The exponent of the number nearest to the quotient `n / d`, before its mantissa is rounded. -/
def unitExponent (n d : Nat) : Int :=
  let size : Int := (n.log2 : Int) - d.log2
  let low := max (size - 53) (-1074)
  let q := inUnits n d low
  if q.2 * Nat.pow 2 53 ≤ q.1 then low + 1 else low

/-- A rounded mantissa with its exponent; one that has got too many bits is halved. -/
def carry (m : Nat) (e : Int) : Nat × Int :=
  if m = Nat.pow 2 53 then (Nat.pow 2 52, e + 1) else (m, e)

/-- The number nearest to the quotient `±n / d` of positive numbers. -/
def ofQuotient (negative : Bool) (n d : Nat) : Binary64 :=
  let e := unitExponent n d
  let q := inUnits n d e
  let r := carry (roundQuotient .toEven q.1 q.2) e
  if 971 < r.2 then infinite negative else finite negative r.1 r.2

/-- The number nearest to a decimal. -/
def ofDecimal (x : Decimal) : Binary64 :=
  -- About the power of ten of the number.
  let size : Int := x.coefficient.log2 * 30103 / 100000 + x.exponent
  if x.coefficient = 0 || size < -400 then finite x.negative 0 (-1074)
  else if 400 < size then infinite x.negative
  else
    ofQuotient x.negative (x.coefficient * Nat.pow 10 x.exponent.toNat)
      (Nat.pow 10 (-x.exponent).toNat)

/-- The number is neither infinite nor undefined. -/
def isFinite : Binary64 → Bool
  | finite .. => true
  | _ => false

/-- Equality of values, where both zeros are equal and an undefined number equals itself. -/
def same : Binary64 → Binary64 → Bool
  | finite _ 0 _, finite _ 0 _ => true
  | a, b => a == b

/-- The multiple of `10 ^ k` nearest to `m · 2 ^ e` among those that are rounded to it, divided by
`10 ^ k`. -/
def onGrid? (tie : Tie) (m : Nat) (e k : Int) : Option Nat :=
  -- In units of a quarter of `2 ^ e`, the numbers rounded to `4 m` lie between `low` and `high`.
  let centre := 4 * m
  let high := centre + 2
  let low := if m = Nat.pow 2 52 && -1074 < e then centre - 1 else centre - 2
  let grid := Nat.pow 10 k.toNat * Nat.pow 2 (2 - e).toNat
  let unit := Nat.pow 10 (-k).toNat * Nat.pow 2 (e - 2).toNat
  let hit (d : Nat) : Bool :=
    let x := d * grid
    if m % 2 = 0 then low * unit ≤ x && x ≤ high * unit else low * unit < x && x < high * unit
  let below := centre * unit / grid
  let nearest := roundQuotient tie (centre * unit) grid
  let other := if nearest = below then below + 1 else below
  if hit nearest then some nearest else if hit other then some other else none

/-- The fewest decimal digits that are rounded to the positive number `m · 2 ^ e`, with the
exponent of the last one. -/
def shortest (tie : Tie) (m : Nat) (e : Int) : Nat × Int :=
  let size := (m.log2 + 1 + e) * 30103 / 100000 + 1
  let grids := (List.range 24).map (size - Int.ofNat ·)
  (grids.findSome? fun k => (onGrid? tie m e k).map (·, k)).getD (0, 0)

end Binary64

/-- Digits without zeros at their end, with the exponent of the last one. -/
def stripZeros : Nat → Nat → Int → Nat × Int
  | 0, d, k => (d, k)
  | bound + 1, d, k => if d % 10 = 0 then stripZeros bound (d / 10) (k + 1) else (d, k)

end PipelineScript.Number
