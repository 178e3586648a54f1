import SpannerDdl.Decimal.Shortest

/-! # Number texts

How a double is written is a choice of the format it stands in: the names of the values that are
not numbers, and the exponents that are written positionally. The digits are always the fewest
that read back.

* `Style`: the choices of a format.
* `Style.text`: a double in that format.
* `read m e`: the double nearest to `m · 10 ^ e`.
-/

set_option autoImplicit false

namespace SpannerDdl.Decimal

/-- The choices of a format. The first digit of a positional number has an exponent from
`lowest` to `highest`; all other numbers are written with an exponent of at least two digits that
always has a sign. A positional number always has a fraction, if only `.0`. -/
structure Style where
  nan : String
  infinity : String
  lowest : Int := -4
  highest : Int := 15

/-- Digits and exponent with a point in its place. -/
def positional (d : Digits) : List Char :=
  if d.exponent < 0 then
    ['0', '.'] ++ List.replicate ((-d.exponent).toNat - 1) '0' ++ d.digits
  else
    let whole := d.exponent.toNat + 1
    let fraction := d.digits.drop whole
    d.digits.take whole ++ List.replicate (whole - d.digits.length) '0' ++
      '.' :: (if fraction.isEmpty then ['0'] else fraction)

/-- Digits with the point behind the first one and an exponent. -/
def scientific (d : Digits) : List Char :=
  let fraction := d.digits.drop 1
  let size := Nat.toDigits 10 d.exponent.natAbs
  d.digits.take 1 ++ (if fraction.isEmpty then [] else '.' :: fraction) ++
    'e' :: (if d.exponent < 0 then '-' else '+') :: List.replicate (2 - size.length) '0' ++ size

/-- A double in the given format. -/
def Style.text (style : Style) (x : Float) : String :=
  match Binary.ofFloat x with
  | .nan => style.nan
  | .infinite negative => if negative then "-" ++ style.infinity else style.infinity
  | .finite negative m q =>
    let size : List Char :=
      if m = 0 then ['0', '.', '0']
      else match shortest? m q with
        | none => []
        | some d =>
          if style.lowest ≤ d.exponent ∧ d.exponent ≤ style.highest then positional d else scientific d
    String.ofList (if negative then '-' :: size else size)

/-- The double nearest to `m · 10 ^ e`. Beyond the range of doubles the answer is known without
computing the power. -/
def read (m : Nat) (e : Int) : Float :=
  let lead := e + decimalLength m
  if m = 0 ∨ lead < -400 then 0.0
  else if 400 < lead then 1.0 / 0.0
  else Float.ofScientific m (decide (e < 0)) e.natAbs

end SpannerDdl.Decimal
