/-! # Halves of surrogate pairs

Code points beyond U+FFFF are made of two halves where text is written in units of sixteen bits. An
escape may write one half alone, which is a code point but no character. Texts hold a character in
its place: the one that is 0xA0000 further on, where no characters are assigned.

There are fewer characters than code points, so the code points from U+AD800 to U+ADFFF are given up
for the halves: wherever texts are read, compared, quoted or written, they are texts without these,
and a character from there means the half it is in the place of. All other code points are told
apart by their characters.

* `isHalf n`: a code point is half a pair.
* `isTaken n`: the character of a code point is in the place of a half.
* `ofCodePoint n`: the character of a code point, or the one in place of half a pair.
* `codePoint c`: the code point of a character, or of the half it is in the place of; it is the one
  that the character is of: `codePoint_ofCodePoint`.
* `isStandIn c`: a character is in the place of a half.
-/

set_option autoImplicit false

namespace SpannerDdl.Text

/-- Whether a code point is half a pair. -/
def isHalf (n : Nat) : Bool := decide (0xD800 ≤ n) && decide (n < 0xE000)

/-- How far the character in place of half a pair is from it. -/
def halfOffset : Nat := 0xA0000

/-- Whether the character of a code point is in the place of half a pair. No text holds such a code
point itself. -/
def isTaken (n : Nat) : Bool := decide (halfOffset ≤ n) && isHalf (n - halfOffset)

/-- The character of a code point. -/
def ofCodePoint (n : Nat) : Char := Char.ofNat (if isHalf n then n + halfOffset else n)

/-- Whether a character is in the place of half a pair. -/
def isStandIn (c : Char) : Bool := isTaken c.toNat

/-- The code point of a character. -/
def codePoint (c : Char) : Nat := if isStandIn c then c.toNat - halfOffset else c.toNat

theorem toNat_ofCodePoint {n : Nat} (h : n < 0x110000) :
    (ofCodePoint n).toNat = if isHalf n then n + halfOffset else n := by
  have valid : (if isHalf n then n + halfOffset else n).isValidChar := by
    simp only [isHalf, Bool.and_eq_true, decide_eq_true_eq, halfOffset]
    split
    · exact .inr ⟨by omega, by omega⟩
    · by_cases low : n < 0xD800
      · exact .inl low
      · exact .inr ⟨by omega, h⟩
  rw [ofCodePoint, Char.ofNat, dif_pos valid]
  rfl

/-- The code points of a text are found again in its characters, unless they are given up. -/
theorem codePoint_ofCodePoint {n : Nat} (h : n < 0x110000) (free : isTaken n = false) :
    codePoint (ofCodePoint n) = n := by
  unfold codePoint isStandIn
  rw [toNat_ofCodePoint h]
  by_cases half : isHalf n = true
  · have taken : isTaken (n + halfOffset) = true := by
      rw [isTaken, Nat.add_sub_cancel, half, Bool.and_true, decide_eq_true_eq]
      exact Nat.le_add_left halfOffset n
    rw [if_pos half, if_pos taken, Nat.add_sub_cancel]
  · rw [if_neg half, free]
    rfl

end SpannerDdl.Text
