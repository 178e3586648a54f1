/-! # Blank characters

The white space of Unicode 14 together with the four ASCII information separators; the zero-width
space U+200B is not blank.

* `isBlank c`: the class itself.
* `isNumberBlank c`: the blanks that may stand around a number.
* `trim s`: the text without its leading and trailing blanks.
* `blankWords cs`: the maximal runs of characters that are not blank, in order.
-/

set_option autoImplicit false

namespace SpannerDdl.Text

/-- The code points of the blank characters. -/
def isBlankCode (n : Nat) : Bool :=
  (decide (0x09 ≤ n) && decide (n ≤ 0x0D)) || (decide (0x1C ≤ n) && decide (n ≤ 0x20)) ||
  n == 0x85 || n == 0xA0 || n == 0x1680 || (decide (0x2000 ≤ n) && decide (n ≤ 0x200A)) ||
  n == 0x2028 || n == 0x2029 || n == 0x202F || n == 0x205F || n == 0x3000

/-- White space of any script. -/
def isBlank (c : Char) : Bool := isBlankCode c.toNat

/-- The blanks that may stand around a number: white space, but no information separator. -/
def isNumberBlank (c : Char) : Bool :=
  isBlank c && !(decide (0x1C ≤ c.toNat) && decide (c.toNat ≤ 0x1F))

/-- The characters without their leading and trailing blanks. -/
def trimChars (cs : List Char) : List Char :=
  ((cs.dropWhile isBlank).reverse.dropWhile isBlank).reverse

/-- The text without its leading and trailing blanks. -/
def trim (s : String) : String := String.ofList (trimChars s.toList)

/-- The words of `cs`, where `word` holds the characters already read of the first one, last
character first. -/
def blankWordsFrom : List Char → List Char → List (List Char)
  | [], word => if word.isEmpty then [] else [word.reverse]
  | c :: cs, word =>
    if isBlank c then
      if word.isEmpty then blankWordsFrom cs [] else word.reverse :: blankWordsFrom cs []
    else blankWordsFrom cs (c :: word)

/-- The maximal runs of characters that are not blank, in order. -/
def blankWords (cs : List Char) : List (List Char) := blankWordsFrom cs []

end SpannerDdl.Text
