import SpannerDdl.Text.Blank
import SpannerDdl.Text.DecimalDigit
import SpannerDdl.Text.Hex

/-! # Whole numbers in text

A numeral is a run of digits in which single underscores may stand between digits.

* `isNumeral digit cs`: `cs` is a numeral of the given digits.
* `readInteger base cs`: the integer that characters denote to a base, with blanks around it, a
  sign, the mark of the base, and decimal digits of any script.
* `NumeralFault`: why they denote none.
* `integer? s`: the integer a text denotes to the base ten.
* `decimal? n`: the decimal digits of an integer that has no more than are written.
-/

set_option autoImplicit false

namespace SpannerDdl.Text

/-! ## Numerals -/

/-- Whether a text is a numeral. `afterDigit` tells whether the character before it is a digit of
the same numeral. -/
def isNumeralFrom (digit : Char → Bool) : Bool → List Char → Bool
  | afterDigit, [] => afterDigit
  | afterDigit, c :: cs =>
    if c == '_' then afterDigit && isNumeralFrom digit false cs
    else digit c && isNumeralFrom digit true cs

/-- Whether a text is a numeral of the given digits. -/
def isNumeral (digit : Char → Bool) (cs : List Char) : Bool := isNumeralFrom digit false cs

/-- The value of a digit to a base: a decimal digit of any script, or a letter of ASCII. -/
def digitOf? (base : Nat) (c : Char) : Option Nat :=
  ((digitValue? c).or (hexValue? c)).filter (· < base)

/-- The number that digits to a base stand for; other characters count nothing. -/
def numberOf (base : Nat) (cs : List Char) : Nat :=
  cs.foldl (fun n c => ((digitOf? base c).map fun d => n * base + d).getD n) 0

/-- The sign in front of a text, minus or not, and the text behind it. -/
def splitSign : List Char → Bool × List Char
  | '-' :: cs => (true, cs)
  | '+' :: cs => (false, cs)
  | cs => (false, cs)

/-! ## Integers -/

/-- Why characters denote no integer: they are not written like one, or they are more decimal
digits than a number is read from. -/
inductive NumeralFault where
  | malformed
  | tooLong (digits : Nat)
  deriving DecidableEq, Repr

/-- The greatest number of decimal digits that an integer is read from or written with. -/
def digitLimit : Nat := 4300

/-- The limit on digits in words, with what is known of the number. -/
def digitLimitText (known : String) : String :=
  "Exceeds the limit (" ++ toString digitLimit ++ " digits) for integer string conversion" ++
    known ++ "; use sys.set_int_max_str_digits() to increase the limit"

/-- A number of too many digits in words. -/
def tooManyDigitsText (digits : Nat) : String :=
  digitLimitText (": value has " ++ toString digits ++ " digits")

/-- The letters that mark a base behind a zero. -/
def baseLetters : Nat → List Char
  | 2 => ['b', 'B']
  | 8 => ['o', 'O']
  | 16 => ['x', 'X']
  | _ => []

/-- The characters behind the mark of a base, if it is there. An underscore may follow it. -/
def dropBaseMark (base : Nat) (cs : List Char) : List Char :=
  match cs with
  | '0' :: letter :: rest =>
    if !(baseLetters base).contains letter then cs
    else match rest with
      | '_' :: behind => behind
      | _ => rest
  | _ => cs

/-- The integer that characters denote to a base. The length of a decimal number is looked at
before what follows it. -/
def readInteger (base : Nat) (cs : List Char) : Except NumeralFault Int :=
  let (negative, cs) := splitSign (cs.dropWhile isNumberBlank)
  let cs := dropBaseMark base cs
  let isDigit (c : Char) : Bool := (digitOf? base c).isSome
  let run := cs.takeWhile fun c => isDigit c || c == '_'
  let digits := run.filter (· != '_')
  if !isNumeral isDigit run then .error .malformed
  else if base = 10 ∧ digitLimit < digits.length then .error (.tooLong digits.length)
  else if !(cs.drop run.length).all isNumberBlank then .error .malformed
  else
    let n := numberOf base digits
    .ok (if negative then -(n : Int) else n)

/-- The integer a text denotes. -/
def integer? (s : String) : Option Int := (readInteger 10 s.toList).toOption

/-! ## Writing -/

/-- The decimal digits of an integer, unless they are too many. -/
def decimal? (n : Int) : Option String :=
  if Nat.pow 10 digitLimit ≤ n.natAbs then none else some (toString n)

theorem pow_le_iff_lt_length_toDigits {k : Nat} (h : 0 < k) (m : Nat) :
    Nat.pow 10 k ≤ m ↔ k < (Nat.toDigits 10 m).length := by
  rw [← Nat.not_le, Nat.length_toDigits_le_iff (by decide) h, Nat.not_lt]
  rfl

theorem isSome_decimal?_iff {n : Int} :
    (decimal? n).isSome = true ↔ (Nat.toDigits 10 n.natAbs).length ≤ digitLimit := by
  have limit : Nat.pow 10 digitLimit ≤ n.natAbs ↔ digitLimit < (Nat.toDigits 10 n.natAbs).length :=
    pow_le_iff_lt_length_toDigits (by decide) n.natAbs
  rw [← Nat.not_lt, ← limit, decimal?]
  split
  · rename_i long
    exact iff_of_false (fun h => by cases h) (not_not_intro long)
  · rename_i short
    exact iff_of_true rfl short

end SpannerDdl.Text
