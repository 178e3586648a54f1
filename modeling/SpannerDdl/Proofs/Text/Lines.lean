import SpannerDdl.Text.Blank
import SpannerDdl.Text.Quoted

/-! # Lines of text

* `isLineBreak c`: the characters that end a line.
* `OnOneLine s`: a text without any of them; `IsLine s`: such a text and the end of its line.
* `onOneLine_quoted`: whatever a text holds, between quotes it stands on one line. -/

set_option autoImplicit false

namespace SpannerDdl.Text

/-- The code points that end a line: line feed, vertical tab, form feed, carriage return, the
separators of files, groups and records, next line, and the separators of lines and paragraphs. -/
def lineBreaks : List Nat := [0x0A, 0x0B, 0x0C, 0x0D, 0x1C, 0x1D, 0x1E, 0x85, 0x2028, 0x2029]

/-- Whether a character ends a line. -/
def isLineBreak (c : Char) : Bool := lineBreaks.contains c.toNat

/-- A text that stands on one line. -/
def OnOneLine (s : String) : Prop := ∀ c ∈ s.toList, isLineBreak c = false

instance (s : String) : Decidable (OnOneLine s) := List.decidableBAll _ s.toList

theorem isLineBreak_of_apart {p : Nat → Prop} {c : Char} (h : p c.toNat)
    (apart : ∀ n ∈ lineBreaks, ¬ p n) : isLineBreak c = false := by
  cases isBreak : isLineBreak c with
  | false => rfl
  | true => exact absurd h (apart _ (List.contains_iff_mem.1 isBreak))

theorem isLineBreak_of_not_isBlank {c : Char} (h : isBlank c = false) : isLineBreak c = false :=
  isLineBreak_of_apart (p := fun n => isBlankCode n = false) h (by decide)

@[simp] theorem onOneLine_append {s t : String} :
    OnOneLine (s ++ t) ↔ OnOneLine s ∧ OnOneLine t := by
  simp only [OnOneLine, String.toList_append, List.mem_append, or_imp, forall_and]

/-- A text that is exactly one line, ended by a line feed. -/
def IsLine (s : String) : Prop := ∃ line, OnOneLine line ∧ s = line ++ "\n"

theorem isLine_append_iff {s : String} : IsLine (s ++ "\n") ↔ OnOneLine s := by
  constructor
  · rintro ⟨line, onOneLine, same⟩
    have s_eq : s = line := by
      rw [String.ext_iff, String.toList_append, String.toList_append] at same
      exact String.ext (List.append_cancel_right same)
    rwa [s_eq]
  · exact fun h => ⟨s, h, rfl⟩

theorem onOneLine_ofList {cs : List Char} :
    OnOneLine (String.ofList cs) ↔ ∀ c ∈ cs, isLineBreak c = false := by
  rw [OnOneLine, String.toList_ofList]

/-! ## Numbers -/

theorem isLineBreak_of_isDigit {c : Char} (h : c.isDigit = true) : isLineBreak c = false :=
  isLineBreak_of_apart (p := fun n => 48 ≤ n ∧ n ≤ 57) (Char.isDigit_iff_toNat.1 h) (by decide)

theorem onOneLine_toString_nat (n : Nat) : OnOneLine (toString n) := by
  intro c hc
  rw [Nat.toString_eq_repr, Nat.toList_repr] at hc
  exact isLineBreak_of_isDigit (Nat.isDigit_of_mem_toDigits (by decide) (by decide) hc)

/-! ## Quoted text -/

theorem isLineBreak_of_isPrintable {c : Char} (h : isPrintable c = true) :
    isLineBreak c = false :=
  isLineBreak_of_apart (p := fun n => (if n < 0x80 then decide (0x20 ≤ n) && decide (n < 0x7F)
    else !inRanges unprintableRanges n) = true) h (by decide +kernel)

theorem isLineBreak_of_mem_hexFixed {width n : Nat} {c : Char} (h : c ∈ hexFixed width n) :
    isLineBreak c = false := by
  have digits : ∀ d < 16, isLineBreak (hexDigit d) = false := by decide
  induction width generalizing n with
  | zero => cases h
  | succ width ih =>
    rcases List.mem_append.1 h with h | h
    · exact ih h
    · rw [List.mem_singleton.1 h]
      exact digits _ (Nat.mod_lt n (by decide))

theorem isLineBreak_of_mem_escapeCode {n : Nat} {c : Char} (h : c ∈ escapeCode n) :
    isLineBreak c = false := by
  have marked : ∀ {letter : Char} {width : Nat}, isLineBreak letter = false →
      c ∈ '\\' :: letter :: hexFixed width n → isLineBreak c = false := by
    intro letter width ofLetter h
    rcases List.mem_cons.1 h with rfl | h
    · decide
    rcases List.mem_cons.1 h with rfl | h
    · exact ofLetter
    · exact isLineBreak_of_mem_hexFixed h
  unfold escapeCode at h
  split at h
  · exact marked (by decide) h
  split at h
  · exact marked (by decide) h
  · exact marked (by decide) h

theorem isLineBreak_of_mem_quotedChar {quote c d : Char} (h : d ∈ quotedChar quote c)
    (ofQuote : isLineBreak quote = false) : isLineBreak d = false := by
  have pair : ∀ {e : Char}, d ∈ ['\\', e] → isLineBreak e = false → isLineBreak d = false := by
    intro e h ofSecond
    rcases List.mem_cons.1 h with rfl | h
    · decide
    · rwa [List.mem_singleton.1 h]
  unfold quotedChar at h
  split at h
  · next isMarked =>
    rcases isMarked with rfl | rfl
    · exact pair h ofQuote
    · exact pair h (by decide)
  split at h
  · exact pair h (by decide)
  split at h
  · exact pair h (by decide)
  split at h
  · exact pair h (by decide)
  split at h
  · next printable =>
    rw [List.mem_singleton.1 h]
    exact isLineBreak_of_isPrintable printable
  · exact isLineBreak_of_mem_escapeCode h

theorem onOneLine_quoted (s : String) : OnOneLine (quoted s) := by
  have ofQuote : isLineBreak (quoteFor s.toList) = false := by
    unfold quoteFor
    split <;> decide
  refine onOneLine_ofList.2 fun c hc => ?_
  simp only [List.cons_append, List.mem_cons, List.mem_append, List.mem_flatMap,
    List.not_mem_nil, or_false] at hc
  rcases hc with rfl | ⟨d, _, hc⟩ | rfl
  · exact ofQuote
  · exact isLineBreak_of_mem_quotedChar hc ofQuote
  · exact ofQuote

end SpannerDdl.Text
