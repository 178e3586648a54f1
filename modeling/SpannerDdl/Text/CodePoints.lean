/-! # Texts by code points

A text that is written with escapes may hold halves of surrogate pairs, which are code points but no
characters. Such a text is kept as the list of its code points.

* `char? n`: the character of a code point.
* `CodePoints`: a text by its code points; `CodePoints.ofString`, `CodePoints.toString?`.
-/

set_option autoImplicit false

namespace SpannerDdl.Text

/-- The character of a code point, unless it is half a pair or beyond the last character. -/
def char? (n : Nat) : Option Char := if h : n.isValidChar then some (Char.ofNatAux n h) else none

@[simp] theorem char?_toNat (c : Char) : char? c.toNat = some c := by
  have h : c.toNat.isValidChar := c.valid
  rw [char?, dif_pos h]
  rfl

theorem char?_eq_some_iff {n : Nat} {c : Char} : char? n = some c ↔ n = c.toNat := by
  constructor
  · intro h
    by_cases valid : n.isValidChar
    · rw [char?, dif_pos valid] at h
      rw [← Option.some.inj h]
      exact UInt32.toNat_ofNatLT.symm
    · rw [char?, dif_neg valid] at h
      cases h
  · rintro rfl
    exact char?_toNat c

/-- A text by its code points. -/
abbrev CodePoints := List Nat

namespace CodePoints

/-- The code points of characters. -/
def ofChars (cs : List Char) : CodePoints := cs.map Char.toNat

/-- The code points of a text. -/
def ofString (s : String) : CodePoints := ofChars s.toList

/-- The characters of a text without halves. -/
def toChars? (cs : CodePoints) : Option (List Char) := cs.mapM char?

/-- The text, if it has no halves. -/
def toString? (cs : CodePoints) : Option String := cs.toChars?.map String.ofList

@[simp] theorem toChars?_ofChars (cs : List Char) : toChars? (ofChars cs) = some cs := by
  induction cs with
  | nil => rfl
  | cons c cs ih =>
    have h : toChars? (ofChars (c :: cs)) = (char? c.toNat).bind fun c' =>
        (toChars? (ofChars cs)).bind fun cs' => some (c' :: cs') := by
      simp [toChars?, ofChars, List.mapM_cons, bind, pure]
    rw [h, ih]
    simp

@[simp] theorem toString?_ofString (s : String) : toString? (ofString s) = some s := by
  simp [toString?, ofString]

theorem ofString_inj {s t : String} : ofString s = ofString t ↔ s = t := by
  constructor
  · intro h
    rw [← Option.some.injEq, ← toString?_ofString s, h, toString?_ofString]
  · rintro rfl
    rfl

theorem toChars?_eq_some_iff {ns : CodePoints} {cs : List Char} :
    ns.toChars? = some cs ↔ ns = ofChars cs := by
  constructor
  · intro h
    induction ns generalizing cs with
    | nil =>
      cases h
      rfl
    | cons n ns ih =>
      rw [toChars?, List.mapM_cons] at h
      obtain ⟨c, hc, h⟩ := Option.bind_eq_some_iff.1 h
      obtain ⟨cs', hcs, h⟩ := Option.bind_eq_some_iff.1 h
      cases h
      rw [char?_eq_some_iff.1 hc, ih hcs]
      rfl
  · rintro rfl
    exact toChars?_ofChars cs

theorem toString?_eq_some_iff {ns : CodePoints} {s : String} :
    ns.toString? = some s ↔ ns = ofString s := by
  constructor
  · intro h
    obtain ⟨cs, hcs, rfl⟩ := Option.map_eq_some_iff.1 h
    rw [ofString, String.toList_ofList, toChars?_eq_some_iff.1 hcs]
  · rintro rfl
    exact toString?_ofString s

end CodePoints

end SpannerDdl.Text
