import Mathlib.Data.List.Forall2
import SpannerDdl.Grammar.Statement

/-! # Letter case of texts and tokens

A word is a keyword by its upper case, and punctuation has no letters: no test of a token tells
apart texts that differ in the case of ASCII letters only. `String.toUpper` changes the ASCII
letters of a text, in contrast to `Text.upper`, which follows Unicode.

* `Text.isCaseless s`: the text has no ASCII letters.
* `Token.foldCase t`: the token with its text in upper case.
* `Token.SameButCase t u`: tokens that differ in the case of the ASCII letters of a word at most. -/

set_option autoImplicit false

namespace SpannerDdl

/-! ## Texts -/

namespace Text

variable {s t : String} {c d : Char}

@[simp] theorem toList_toUpper (s : String) : s.toUpper.toList = s.toList.map Char.toUpper :=
  String.toList_map

@[simp] theorem toUpper_append (s t : String) : (s ++ t).toUpper = s.toUpper ++ t.toUpper := by
  apply String.toList_inj.1
  simp

@[simp] theorem toUpper_ofList (cs : List Char) :
    (String.ofList cs).toUpper = String.ofList (cs.map Char.toUpper) := by
  apply String.toList_inj.1
  simp

theorem isLower_iff : c.isLower = true ↔ 'a'.val ≤ c.val ∧ c.val ≤ 'z'.val := by
  show (decide ('a'.val ≤ c.val) && decide (c.val ≤ 'z'.val)) = true ↔ _
  rw [Bool.and_eq_true, decide_eq_true_eq, decide_eq_true_eq]

theorem toNat_of_isLower (h : c.isLower = true) : 0x61 ≤ c.toNat ∧ c.toNat ≤ 0x7A :=
  (isLower_iff.1 h).imp UInt32.le_iff_toNat_le.1 UInt32.le_iff_toNat_le.1

theorem toNat_lt_of_isLower (h : c.isLower = true) : c.toNat < 0x80 :=
  Nat.lt_of_le_of_lt (toNat_of_isLower h).2 (by decide)

theorem isAlpha_of_isLower (h : c.isLower = true) : c.isAlpha = true := by
  show (c.isUpper || c.isLower) = true
  rw [h, Bool.or_true]

theorem toUpper_of_not_isLower (h : ¬c.isLower = true) : c.toUpper = c :=
  dif_neg (mt isLower_iff.2 h)

/-- The upper case of the small ASCII letters. -/
theorem toUpper_of_isLower (h : c.isLower = true) :
    c.toUpper.toNat < 0x80 ∧ c.toUpper.isAlpha = true ∧ c.toUpper.toUpper = c.toUpper := by
  have table : ∀ n < 0x80, (Char.ofNat n).isLower = true →
      (Char.ofNat n).toUpper.toNat < 0x80 ∧ (Char.ofNat n).toUpper.isAlpha = true ∧
      (Char.ofNat n).toUpper.toUpper = (Char.ofNat n).toUpper := by decide
  have s1 := table c.toNat (toNat_lt_of_isLower h)
  rw [Char.ofNat_toNat] at s1
  exact s1 h

theorem upperChar_toUpper (c : Char) : upperChar c.toUpper = upperChar c := by
  by_cases h : c.isLower = true
  · obtain ⟨ascii, -, again⟩ := toUpper_of_isLower h
    rw [upperChar_ascii ascii, upperChar_ascii (toNat_lt_of_isLower h), again]
  · rw [toUpper_of_not_isLower h]

/-- The upper case of a text does not depend on the case of its ASCII letters. -/
@[simp] theorem upper_toUpper (s : String) : upper s.toUpper = upper s := by
  unfold upper
  rw [toList_toUpper, List.flatMap_map]
  simp only [upperChar_toUpper]

theorem upperChar_ne_nil (c : Char) : upperChar c ≠ [] := by
  have s1 : ∀ p ∈ upperExpansions, p.2 ≠ [] := by decide +kernel
  unfold upperChar
  split
  · simp
  · split
    · rename_i codes hc
      obtain ⟨before, behind, he, _⟩ := List.lookup_eq_some_iff.1 hc
      have s2 := s1 (c.toNat, codes) (he ▸ by simp)
      simpa using s2
    · split <;> simp

theorem upper_eq_empty_iff : upper s = "" ↔ s = "" := by
  rw [← String.toList_inj, ← String.toList_inj, upper_toList, String.toList_empty]
  cases s.toList with
  | nil => simp
  | cons c cs => simp [upperChar_ne_nil]

theorem isAlphanumeric_toUpper (c : Char) : isAlphanumeric c.toUpper = isAlphanumeric c := by
  by_cases h : c.isLower = true
  · obtain ⟨ascii, alpha, -⟩ := toUpper_of_isLower h
    rw [isAlphanumeric_ascii ascii, isAlphanumeric_ascii (toNat_lt_of_isLower h),
      Char.isAlphanum, Char.isAlphanum, alpha, isAlpha_of_isLower h, Bool.true_or, Bool.true_or]
  · rw [toUpper_of_not_isLower h]

/-- Whether a text has no ASCII letters. -/
def isCaseless (s : String) : Bool := s.toList.all fun c => !c.isAlpha

theorem toUpper_eq_iff (h : d.isAlpha = false) : c.toUpper = d ↔ c = d := by
  by_cases hc : c.isLower = true
  · obtain ⟨-, alpha, -⟩ := toUpper_of_isLower hc
    constructor
    · rintro rfl
      rw [alpha] at h
      cases h
    · rintro rfl
      rw [isAlpha_of_isLower hc] at h
      cases h
  · rw [toUpper_of_not_isLower hc]

theorem map_toUpper_eq_iff {cs ds : List Char} (h : ∀ d ∈ ds, d.isAlpha = false) :
    cs.map Char.toUpper = ds ↔ cs = ds := by
  induction ds generalizing cs with
  | nil => exact List.map_eq_nil_iff
  | cons d ds ih =>
    obtain ⟨hd, hds⟩ := List.forall_mem_cons.1 h
    cases cs with
    | nil => simp
    | cons c cs => rw [List.map_cons, List.cons.injEq, List.cons.injEq, toUpper_eq_iff hd, ih hds]

theorem toUpper_eq_iff_of_isCaseless (h : isCaseless t = true) : s.toUpper = t ↔ s = t := by
  have s1 : ∀ d ∈ t.toList, d.isAlpha = false := by
    simpa [isCaseless] using h
  rw [← String.toList_inj, toList_toUpper, map_toUpper_eq_iff s1, String.toList_inj]

theorem toUpper_of_isCaseless (h : isCaseless t = true) : t.toUpper = t :=
  (toUpper_eq_iff_of_isCaseless h).2 rfl

theorem beq_toUpper (h : isCaseless t = true) : (s.toUpper == t) = (s == t) := by
  rw [Bool.eq_iff_iff, beq_iff_eq, beq_iff_eq, toUpper_eq_iff_of_isCaseless h]

end Text

namespace Token

/-! ## Tokens -/

/-- The token with the ASCII letters of its text in upper case. -/
def foldCase (t : Token) : Token := { t with text := t.text.toUpper }

@[simp] theorem kind_foldCase (t : Token) : t.foldCase.kind = t.kind := rfl

@[simp] theorem text_foldCase (t : Token) : t.foldCase.text = t.text.toUpper := rfl

@[simp] theorem upper_foldCase (t : Token) : t.foldCase.upper = t.upper := by
  unfold upper
  rw [kind_foldCase, text_foldCase, Text.upper_toUpper]

@[simp] theorem isKeyword_foldCase (t : Token) (word : String) :
    t.foldCase.isKeyword word = t.isKeyword word := by
  unfold isKeyword
  rw [upper_foldCase]

theorem isPunct_foldCase {text : String} (h : Text.isCaseless text = true) (t : Token) :
    t.foldCase.isPunct text = t.isPunct text := by
  unfold isPunct
  rw [kind_foldCase, text_foldCase, Text.beq_toUpper h]

/-! ## Tokens as text -/

theorem escapeQuotes_toUpper (cs : List Char) :
    escapeQuotes (cs.map Char.toUpper) = (escapeQuotes cs).map Char.toUpper := by
  unfold escapeQuotes
  rw [List.flatMap_map, List.map_flatMap]
  congr
  funext c
  have s1 : c.toUpper = '\'' ↔ c = '\'' := Text.toUpper_eq_iff rfl
  simp only [s1]
  split <;> rfl

theorem spelling_foldCase (t : Token) : t.foldCase.spelling = t.spelling.toUpper := by
  have quote : "'".toUpper = "'" := Text.toUpper_of_isCaseless rfl
  have backquote : "`".toUpper = "`" := Text.toUpper_of_isCaseless rfl
  unfold spelling
  rw [kind_foldCase, text_foldCase]
  split
  · rw [Text.toList_toUpper, escapeQuotes_toUpper, Text.toUpper_append, Text.toUpper_append,
      Text.toUpper_ofList (escapeQuotes _), quote]
  · rw [Text.toUpper_append, Text.toUpper_append, backquote]
  · rfl

theorem joins_toUpper (before piece : String) :
    joins before.toUpper piece.toUpper = joins before piece := by
  have sameChar : ∀ c d : Char, d.isAlpha = false → (c.toUpper == d) = (c == d) := by
    intro c d hd
    rw [Bool.eq_iff_iff, beq_iff_eq, beq_iff_eq, Text.toUpper_eq_iff hd]
  have sameText : ∀ t : String, Text.isCaseless t = true → (piece.toUpper == t) = (piece == t) :=
    fun t ht => Text.beq_toUpper ht
  unfold joins
  rw [sameText ")" rfl, sameText "," rfl, sameText "." rfl, sameText "(" rfl,
    Text.toList_toUpper, List.getLast?_map]
  cases before.toList.getLast? with
  | none => rfl
  | some c =>
    simp only [Option.map_some]
    rw [sameChar c '(' rfl, sameChar c '.' rfl, sameChar c '@' rfl, Text.isAlphanumeric_toUpper]

theorem tailText_toUpper (before : String) (pieces : List String) :
    tailText before.toUpper (pieces.map String.toUpper) =
      (tailText before pieces).map Char.toUpper := by
  induction pieces generalizing before with
  | nil => rfl
  | cons piece pieces ih =>
    rw [List.map_cons, tailText, tailText, joins_toUpper]
    split
    · rw [← Text.toUpper_append, ih, Text.toList_toUpper, List.map_append]
    · rw [ih, Text.toList_toUpper, List.map_append, List.map_cons]
      rfl

/-- The case of the text of several tokens is that of the tokens. -/
theorem renderAll_foldCase (ts : List Token) :
    renderAll (ts.map foldCase) = (renderAll ts).toUpper := by
  have s1 : (ts.map foldCase).map spelling = (ts.map spelling).map String.toUpper := by
    simp [spelling_foldCase]
  unfold renderAll
  rw [s1]
  cases ts.map spelling with
  | nil => exact (Text.toUpper_of_isCaseless rfl).symm
  | cons piece pieces =>
    simp only [List.map_cons, tailText_toUpper, Text.toUpper_ofList, List.map_append,
      Text.toList_toUpper]

/-! ## Tokens that differ in case only -/

/-- Tokens of one kind and one place, whose texts are equal unless they are words, and equal up to
the case of ASCII letters if they are. -/
structure SameButCase (t u : Token) : Prop where
  kind : t.kind = u.kind
  line : t.line = u.line
  col : t.col = u.col
  text : t.kind ≠ .word → t.text = u.text
  word : t.kind = .word → t.text.toUpper = u.text.toUpper

variable {t u : Token} {ts us : List Token}

theorem SameButCase.refl (t : Token) : SameButCase t t :=
  ⟨rfl, rfl, rfl, fun _ => rfl, fun _ => rfl⟩

theorem SameButCase.of_word {w w' : String}
    (h : w.toList.map Char.toUpper = w'.toList.map Char.toUpper) (line col : Nat) :
    SameButCase ⟨.word, w, line, col⟩ ⟨.word, w', line, col⟩ := by
  have s1 : w.toUpper = w'.toUpper := by
    rw [← String.toList_inj, Text.toList_toUpper, Text.toList_toUpper, h]
  exact ⟨rfl, rfl, rfl, fun hk => absurd rfl hk, fun _ => s1⟩

theorem SameButCase.foldCase_eq (h : SameButCase t u) : t.foldCase = u.foldCase := by
  have s1 : t.text.toUpper = u.text.toUpper := by
    by_cases hk : t.kind = .word
    · exact h.word hk
    · rw [h.text hk]
  show Token.mk t.kind t.text.toUpper t.line t.col = Token.mk u.kind u.text.toUpper u.line u.col
  rw [h.kind, h.line, h.col, s1]

theorem map_foldCase_eq (h : List.Forall₂ SameButCase ts us) :
    ts.map foldCase = us.map foldCase := by
  induction h with
  | nil => rfl
  | cons htu _ ih => rw [List.map_cons, List.map_cons, htu.foldCase_eq, ih]

theorem SameButCase.upper_eq (h : SameButCase t u) : t.upper = u.upper := by
  rw [← upper_foldCase t, h.foldCase_eq, upper_foldCase]

theorem SameButCase.isSemicolon_eq (h : SameButCase t u) : t.isSemicolon = u.isSemicolon := by
  unfold isSemicolon
  rw [← isPunct_foldCase rfl t, h.foldCase_eq, isPunct_foldCase rfl]

theorem forall₂_statementsFrom {current current' : List Token}
    (hc : List.Forall₂ SameButCase current current') (h : List.Forall₂ SameButCase ts us) :
    List.Forall₂ (List.Forall₂ SameButCase) (statementsFrom current ts)
      (statementsFrom current' us) := by
  have read : List.Forall₂ SameButCase current.reverse current'.reverse :=
    List.rel_reverse hc
  induction h generalizing current current' with
  | nil =>
    cases hc with
    | nil => exact .nil
    | cons hc hcs => exact .cons read .nil
  | cons htu _ ih =>
    rw [statementsFrom, statementsFrom, htu.isSemicolon_eq]
    split
    · cases hc with
      | nil => exact ih .nil .nil
      | cons hc hcs => exact .cons read (ih .nil .nil)
    · exact ih (.cons htu hc) (List.rel_reverse (.cons htu hc))

theorem forall₂_statements (h : List.Forall₂ SameButCase ts us) :
    List.Forall₂ (List.Forall₂ SameButCase) (statements ts) (statements us) :=
  forall₂_statementsFrom .nil h

end Token

end SpannerDdl
