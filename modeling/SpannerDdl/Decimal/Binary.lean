/-! # Floating-point numbers as exact fractions

A finite double is `± mantissa · 2 ^ exponent` with a mantissa below `2 ^ 53`.

* `Binary`: the three kinds of double.
* `Binary.ofFloat x`: the kind and the exact value of `x`.
* `truncate? x`: the integer part of a finite number, rounded toward zero.
-/

set_option autoImplicit false

namespace SpannerDdl.Decimal

/-- A double by its exact value. -/
inductive Binary where
  | nan
  | infinite (negative : Bool)
  | finite (negative : Bool) (mantissa : Nat) (exponent : Int)
  deriving DecidableEq, Repr

/-- The kind and the exact value of a double, read off its bits: a sign bit, eleven bits of
exponent and fifty-two bits of fraction. -/
def Binary.ofFloat (x : Float) : Binary :=
  let bits := x.toBits.toNat
  let negative := decide (Nat.pow 2 63 ≤ bits)
  let exponent : Nat := bits / Nat.pow 2 52 % Nat.pow 2 11
  let fraction := bits % Nat.pow 2 52
  if exponent = Nat.pow 2 11 - 1 then
    if fraction = 0 then .infinite negative else .nan
  else if exponent = 0 then .finite negative fraction (-1074)
  else .finite negative (Nat.pow 2 52 + fraction) ((exponent : Int) - 1075)

/-- The integer part of a finite number, rounded toward zero. -/
def truncate? (x : Float) : Option Int :=
  match Binary.ofFloat x with
  | .finite negative m q =>
    let size : Nat := if 0 ≤ q then m * Nat.pow 2 q.toNat else m / Nat.pow 2 (-q).toNat
    some (if negative then -(size : Int) else size)
  | _ => none

end SpannerDdl.Decimal
