import SpannerDdl.Decimal.Style
import SpannerDdl.Text.Numeral

/-! # Floating-point numbers in text

A number has a sign, digits of any script with at most one point, and an exponent; or it is one of
the words for infinity and for what is not a number.

* `ofChars? cs`: the number that characters denote, with blanks around it.
* `ofInt n`: the number nearest to an integer.
-/

set_option autoImplicit false

namespace SpannerDdl.Decimal

/-- The number nearest to an integer. -/
def ofInt (n : Int) : Float := if n < 0 then -read n.natAbs 0 else read n.natAbs 0

/-- The words for infinity. -/
def infinityWords : List String := ["inf", "infinity"]

/-- The word for what is not a number. -/
def nanWord : String := "nan"

/-- A decimal digit of any script. -/
def isDigit (c : Char) : Bool := (Text.digitOf? 10 c).isSome

/-- The exponent behind the digits of a number, zero if there is none. -/
def exponent? (cs : List Char) : Option Int :=
  match cs with
  | [] => some 0
  | mark :: rest =>
    let (negative, digits) := Text.splitSign rest
    if (mark == 'e' || mark == 'E') && !digits.isEmpty && digits.all isDigit then
      let n := Text.numberOf 10 digits
      some (if negative then -(n : Int) else n)
    else none

/-- The number of digits, a point and an exponent, without a sign. -/
def unsigned? (cs : List Char) : Option Float := do
  let whole := cs.takeWhile isDigit
  let (fraction, rest) := match cs.drop whole.length with
    | '.' :: behind => (behind.takeWhile isDigit, behind.dropWhile isDigit)
    | behind => ([], behind)
  let e ← exponent? rest
  if whole.isEmpty && fraction.isEmpty then none
  else return read (Text.numberOf 10 (whole ++ fraction)) (e - (fraction.length : Int))

/-- The number that characters denote. -/
def ofChars? (cs : List Char) : Option Float := do
  let trimmed := ((cs.dropWhile Text.isNumberBlank).reverse.dropWhile Text.isNumberBlank).reverse
  let (negative, size) := Text.splitSign trimmed
  let word := (String.ofList size).toLower
  let x ← if infinityWords.contains word then some (1.0 / 0.0)
    else if word = nanWord then some (0.0 / 0.0)
    else unsigned? size
  return if negative then -x else x

end SpannerDdl.Decimal
