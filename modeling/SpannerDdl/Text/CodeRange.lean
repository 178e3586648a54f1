/-! # Sets of code points as sorted ranges

The character classes of the Unicode standard that the library needs are long; each is kept as a
table of inclusive ranges.

* `inRanges rs n`: the number `n` lies in one of the ranges `rs`.
-/

set_option autoImplicit false

namespace SpannerDdl.Text

/-- Whether a code point lies in one of the inclusive ranges. -/
def inRanges (ranges : List (Nat × Nat)) (n : Nat) : Bool :=
  ranges.any fun r => decide (r.1 ≤ n) && decide (n ≤ r.2)

end SpannerDdl.Text
