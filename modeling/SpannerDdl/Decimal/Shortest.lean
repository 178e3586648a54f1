import SpannerDdl.Decimal.Binary

/-! # The fewest digits that read back

A finite double is written with the fewest significant digits that still denote it, and among
those with the nearest. Every real number between the midpoints to the two neighbouring doubles
reads back as the double; the midpoints themselves do so when the mantissa is even.

* `Interval`: the value and the midpoints as fractions over one denominator.
* `Digits`: significant digits and the decimal exponent of the first of them.
* `shortest? m q`: the digits of the positive number `m · 2 ^ q`.
-/

set_option autoImplicit false

namespace SpannerDdl.Decimal

/-- A positive double and the reals that read back as it: `low / den ≤ value / den ≤ high / den`,
ends included when `closed`. -/
structure Interval where
  low : Nat
  value : Nat
  high : Nat
  den : Nat
  closed : Bool

/-- The interval of `m · 2 ^ q`. Below a power of two the neighbour is half as far away, except
among the smallest numbers. -/
def Interval.of (m : Nat) (q : Int) : Interval :=
  let down := if m = Nat.pow 2 52 ∧ -1074 < q then 1 else 2
  let up := if 0 ≤ q then Nat.pow 2 q.toNat else 1
  { low := (4 * m - down) * up
    value := 4 * m * up
    high := (4 * m + 2) * up
    den := if 0 ≤ q then 4 else 4 * Nat.pow 2 (-q).toNat
    closed := m % 2 = 0 }

/-- Whether the fraction `num / den` reads back as the double. -/
def Interval.holds (i : Interval) (num den : Nat) : Bool :=
  if i.closed then decide (i.low * den ≤ num * i.den) && decide (num * i.den ≤ i.high * den)
  else decide (i.low * den < num * i.den) && decide (num * i.den < i.high * den)

/-- Significant digits, read as one number, and the decimal exponent of the first of them. -/
structure Digits where
  digits : List Char
  exponent : Int
  deriving DecidableEq, Repr

/-- The number of decimal digits of `n`, none for zero. -/
def decimalLength (n : Nat) : Nat := if n = 0 then 0 else (Nat.toDigits 10 n).length

/-- The exponent of the greatest power of ten that is at most `num / den`. -/
def leadingExponent (num den : Nat) : Int :=
  if den ≤ num then (decimalLength (num / den) : Int) - 1
  else -(decimalLength ((den + num - 1) / num - 1) : Int)

/-- The digits of `d` units of `10 ^ unit`, without trailing zeros. -/
def Digits.ofUnits (d : Nat) (unit : Int) : Digits :=
  let all := Nat.toDigits 10 d
  { digits := (all.reverse.dropWhile (· == '0')).reverse
    exponent := unit + (all.length - 1 : Nat) }

/-- The multiple of `10 ^ unit` next to the value that reads back, the nearer one if both
neighbours do and the even one if they are equally near. -/
def Interval.onGrid? (i : Interval) (unit : Int) : Option Nat :=
  let scale := if 0 ≤ unit then Nat.pow 10 unit.toNat else 1
  let den := if 0 ≤ unit then 1 else Nat.pow 10 (-unit).toNat
  let d := i.value * den / (i.den * scale)
  match i.holds (d * scale) den, i.holds ((d + 1) * scale) den with
  | false, false => none
  | true, false => some d
  | false, true => some (d + 1)
  | true, true =>
    let below := i.value * den - d * scale * i.den
    let above := (d + 1) * scale * i.den - i.value * den
    some (if below < above then d else if above < below then d + 1 else d + d % 2)

/-- The first grid on which a neighbour of the value reads back, among those that give the value
`count`, `count + 1`, … digits; `more` further grids are tried. -/
def Interval.search (i : Interval) (lead : Int) (count : Nat) : Nat → Option Digits
  | 0 => none
  | more + 1 =>
    match i.onGrid? (lead - count + 1) with
    | some d => some (.ofUnits d (lead - count + 1))
    | none => i.search lead (count + 1) more

/-- The digits of the positive number `m · 2 ^ q`. Seventeen digits always read back. -/
def shortest? (m : Nat) (q : Int) : Option Digits :=
  let i := Interval.of m q
  i.search (leadingExponent i.value i.den) 1 17

end SpannerDdl.Decimal
