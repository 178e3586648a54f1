import SpannerDdl.Json.Printer
import SpannerDdl.Json.Reader
import SpannerDdl.Proofs.Text.Separated

/-! # Reading back strings and integers

What the printer writes for a character, a string or an integer is read back by the reader, whatever
stands behind it. Behind an integer there must be nothing that could belong to a number. -/

set_option autoImplicit false

namespace SpannerDdl.Json

/-! ## Characters of a string -/

theorem fourDigits?_hexFixed {n : Nat} (h : n < 65536) : ∃ a b c d,
    Text.hexFixed 4 n = [a, b, c, d] ∧ fourDigits? a b c d = some n := by
  refine ⟨_, _, _, _, rfl, ?_⟩
  rw [fourDigits?, Text.hexValue?_hexDigit (Nat.mod_lt _ (by decide)),
    Text.hexValue?_hexDigit (Nat.mod_lt _ (by decide)),
    Text.hexValue?_hexDigit (Nat.mod_lt _ (by decide)),
    Text.hexValue?_hexDigit (Nat.mod_lt _ (by decide))]
  show some _ = some n
  congr 1
  omega

theorem readUnit?_hexFixed {n : Nat} (h : n < 65536) (c : Char) (rest : List Char) :
    readUnit? (Text.hexFixed 4 n ++ c :: rest) = some (n, c :: rest) := by
  obtain ⟨a, b, c', d, e, hd⟩ := fourDigits?_hexFixed h
  rw [e]
  show (fourDigits? a b c' d).map _ = _
  rw [hd]
  rfl

/-- No surrogate is written as an escape, so no second half is looked for. -/
theorem readUnicode_hexFixed {n : Nat} (h : n < 0x20) (c : Char) (rest : List Char) :
    readUnicode (Text.hexFixed 4 n ++ c :: rest) = .ok (Char.ofNat n, c :: rest) := by
  have hh : isHighSurrogate n = false := by
    rw [isHighSurrogate, decide_eq_false (by omega), Bool.false_and]
  have hc : Text.ofCodePoint n = Char.ofNat n := by
    rw [Text.ofCodePoint, Text.isHalf, decide_eq_false (by omega), Bool.false_and]
    rfl
  rw [readUnicode, readUnit?_hexFixed (by omega)]
  simp only
  split
  · rw [hh, Bool.false_and, hc]
    rfl
  · rw [hc]

theorem readStringFrom_unicode {c : Char} (h : c.toNat < 0x20) (start acc : List Char) (d : Char)
    (rest : List Char) :
    readStringFrom start acc ('\\' :: 'u' :: Text.hexFixed 4 c.toNat ++ d :: rest) =
      readStringFrom start (c :: acc) (d :: rest) := by
  have hu := readUnicode_hexFixed h d rest
  rw [Char.ofNat_toNat] at hu
  rw [List.cons_append, List.cons_append, readStringFrom]
  split
  · rename_i f hf
    rw [hu] at hf
    cases hf
  · rename_i c' behind hb
    rw [hu] at hb
    cases hb
    rfl

theorem readStringFrom_short {e c : Char} (h : shortEscape? e = some c)
    (start acc rest : List Char) :
    readStringFrom start acc ('\\' :: e :: rest) = readStringFrom start (c :: acc) rest := by
  have hu : e ≠ 'u' := by
    intro he
    rw [he] at h
    cases h
  rw [readStringFrom]
  · rw [h]
  · exact hu

theorem readStringFrom_plain {c : Char} (hq : c ≠ '"') (hb : c ≠ '\\') (hc : ¬c.toNat < 0x20)
    (start acc rest : List Char) :
    readStringFrom start acc (c :: rest) = readStringFrom start (c :: acc) rest := by
  rw [readStringFrom]
  · rw [if_neg hc]
  · exact fun h => hq h
  · exact fun h => absurd h hb
  · exact fun _ h => absurd h hb
  · exact fun _ _ h => absurd h hb

/-- Each character is read back from its escape; behind it the string goes on. -/
theorem readStringFrom_escapeChar (c : Char) (start acc : List Char) (d : Char)
    (rest : List Char) :
    readStringFrom start acc (escapeChar c ++ d :: rest) =
      readStringFrom start (c :: acc) (d :: rest) := by
  unfold escapeChar
  split
  · rename_i h; subst h; exact readStringFrom_short rfl _ _ _
  split
  · rename_i h; subst h; exact readStringFrom_short rfl _ _ _
  split
  · rename_i h; subst h; exact readStringFrom_short rfl _ _ _
  split
  · rename_i h; subst h; exact readStringFrom_short rfl _ _ _
  split
  · rename_i h; subst h; exact readStringFrom_short rfl _ _ _
  split
  · rename_i h; subst h; exact readStringFrom_short rfl _ _ _
  split
  · rename_i h; subst h; exact readStringFrom_short rfl _ _ _
  split
  · rename_i h
    exact readStringFrom_unicode h start acc d rest
  · rename_i hq hb _ _ _ _ _ hc
    exact readStringFrom_plain hq hb hc start acc (d :: rest)

theorem readStringFrom_text (cs start acc rest : List Char) :
    readStringFrom start acc (cs.flatMap escapeChar ++ '"' :: rest) =
      .ok (acc.reverse ++ cs, rest) := by
  induction cs generalizing acc with
  | nil => rw [List.flatMap_nil, List.nil_append, readStringFrom, List.append_nil]
  | cons c cs ih =>
    -- Behind the escape stands the next escape or the closing quote.
    have hne : cs.flatMap escapeChar ++ '"' :: rest ≠ [] := by simp
    obtain ⟨d, behind, hd⟩ := List.exists_cons_of_ne_nil hne
    rw [List.flatMap_cons, List.append_assoc, hd, readStringFrom_escapeChar, ← hd, ih]
    simp

/-! ## Results of readers -/

/-- A reader succeeds with the given value and leaves the given text. -/
def Gives {cs : List Char} {α : Type} (r : Except Fault (Reading cs α)) (value : α)
    (rest : List Char) : Prop :=
  ∃ x, r = .ok x ∧ x.value = value ∧ x.rest = rest

theorem readString_text (s : String) (rest : List Char) :
    Gives (readString (s.toList.flatMap escapeChar ++ '"' :: rest)) s rest := by
  unfold readString
  split
  · rename_i f hf
    rw [readStringFrom_text] at hf
    cases hf
  · rename_i cs behind h
    rw [readStringFrom_text] at h
    cases h
    exact ⟨_, rfl, String.ofList_toList, rfl⟩

/-! ## Decimal digits -/

theorem decimalValue_toDigits (n : Nat) : decimalValue (Nat.toDigits 10 n) = n := by
  have h : decimalValue (Nat.toDigits 10 n) = Nat.ofDigitChars 10 (Nat.toDigits 10 n) 0 := by
    rw [decimalValue, Nat.ofDigitChars_eq_foldl]
    congr 1
    funext a c
    rw [Nat.mul_comm]
    rfl
  rw [h, Nat.ofDigitChars_ten_toDigits]

/-- Only zero is written with a zero in front. -/
theorem head_toDigits_ne_zero {n : Nat} (h : 0 < n) :
    (Nat.toDigits 10 n).head Nat.toDigits_ne_nil ≠ '0' := by
  induction n using Nat.strongRecOn with
  | ind n ih =>
    by_cases hn : n < 10
    · simp only [Nat.toDigits_of_lt_base hn, List.head_cons]
      rw [Ne, Nat.digitChar_eq_zero]
      omega
    · have hlt : n / 10 < n := by omega
      have hpos : 0 < n / 10 := by omega
      simp only [Nat.toDigits_of_base_le (by decide : 1 < 10) (by omega : 10 ≤ n)]
      rw [List.head_append_of_ne_nil Nat.toDigits_ne_nil]
      exact ih _ hlt hpos

theorem exists_toDigits_eq_cons (n : Nat) : ∃ d ds, Nat.toDigits 10 n = d :: ds ∧ d.isDigit := by
  obtain ⟨d, ds, e⟩ := List.exists_cons_of_ne_nil (Nat.toDigits_ne_nil : Nat.toDigits 10 n ≠ [])
  have hd : d ∈ Nat.toDigits 10 n := by
    rw [e]
    exact List.mem_cons_self
  exact ⟨d, ds, e, Nat.isDigit_of_mem_toDigits (by decide) (by decide) hd⟩

/-! ## Integers -/

/-- What stands behind a value in a document, which cannot belong to a number. -/
def EndsValue (rest : List Char) : Prop :=
  ∀ c ∈ rest.head?, c = ',' ∨ c = '\n' ∨ c = ']' ∨ c = '\x7d'

theorem endsValue_nil : EndsValue [] := by
  intro c hc
  cases hc

theorem endsValue_cons {c : Char} (h : c = ',' ∨ c = '\n' ∨ c = ']' ∨ c = '\x7d')
    (rest : List Char) : EndsValue (c :: rest) := by
  intro c' hc
  cases hc
  exact h

theorem EndsValue.spanDigits_append {digits rest : List Char} (h : EndsValue rest)
    (hd : ∀ c ∈ digits, c.isDigit) : spanDigits (digits ++ rest) = (digits, rest) := by
  have stop : ∀ c ∈ rest.head?, c.isDigit = false := by
    intro c hc
    rcases h c hc with e | e | e | e <;> rw [e] <;> rfl
  rw [spanDigits, Text.takeWhile_append_of_stop hd stop, Text.dropWhile_append_of_stop hd stop]

theorem EndsValue.readFraction_eq {rest : List Char} (h : EndsValue rest) :
    readFraction rest = ([], rest) := by
  unfold readFraction
  split
  · exact absurd (h '.' rfl) (by decide)
  · rfl

theorem EndsValue.readExponent?_eq {rest : List Char} (h : EndsValue rest) :
    readExponent? rest = none := by
  cases rest with
  | nil => rfl
  | cons c rest =>
    have hc : (c == 'e' || c == 'E') = false := by
      rcases h c rfl with e | e | e | e <;> rw [e] <;> rfl
    simp [readExponent?, hc]

theorem EndsValue.spanWhole_toDigits {rest : List Char} (h : EndsValue rest) (n : Nat) :
    spanWhole (Nat.toDigits 10 n ++ rest) = (Nat.toDigits 10 n, rest) := by
  have hd : ∀ c ∈ Nat.toDigits 10 n, c.isDigit := fun c hc =>
    Nat.isDigit_of_mem_toDigits (by decide) (by decide) hc
  by_cases hn : n = 0
  · subst hn
    rw [Nat.toDigits_zero]
    rfl
  · have hz := head_toDigits_ne_zero (Nat.pos_of_ne_zero hn)
    unfold spanWhole
    split
    · rename_i ds e
      have hh := congrArg List.head? e
      rw [List.head?_append, List.head?_eq_some_head Nat.toDigits_ne_nil] at hh
      exact absurd (Option.some.inj hh) hz
    · exact h.spanDigits_append hd

theorem EndsValue.readUnsigned?_toDigits {rest : List Char} (h : EndsValue rest)
    (negative : Bool) (n : Nat) :
    readUnsigned? negative (Nat.toDigits 10 n ++ rest) =
      some (readDigits negative (Nat.toDigits 10 n), rest) := by
  have hne : (Nat.toDigits 10 n).isEmpty = false :=
    Bool.eq_false_iff.2 fun he => Nat.toDigits_ne_nil (List.isEmpty_iff.1 he)
  rw [readUnsigned?]
  simp [h.spanWhole_toDigits, hne, h.readFraction_eq, h.readExponent?_eq]

theorem EndsValue.readNumber?_intText {rest : List Char} (h : EndsValue rest) (n : Int) :
    readNumber? (intText n ++ rest) =
      some (readDigits (decide (n < 0)) (Nat.toDigits 10 n.natAbs), rest) := by
  by_cases hn : n < 0
  · rw [intText, if_pos hn, decide_eq_true hn, List.cons_append, readNumber?,
      h.readUnsigned?_toDigits]
  · rw [intText, if_neg hn, decide_eq_false hn, ← h.readUnsigned?_toDigits]
    obtain ⟨d, ds, e, hd⟩ := exists_toDigits_eq_cons n.natAbs
    rw [e, List.cons_append, readNumber?]
    intro cs he
    cases he
    cases hd

theorem readWord?_intText (n : Int) (rest : List Char) :
    readWord? (intText n ++ rest) = none := by
  obtain ⟨d, ds, e, hd⟩ := exists_toDigits_eq_cons n.natAbs
  have hl : ∀ c : Char, c.isDigit = false → c ≠ d := by
    intro c hc he
    rw [he, hd] at hc
    cases hc
  rw [intText, e]
  split
  · simp [readWord?, wordValues, hl]
  · simp [readWord?, wordValues, hl]

theorem readDigits_toDigits {n : Int}
    (h : (Nat.toDigits 10 n.natAbs).length ≤ Text.digitLimit) :
    readDigits (decide (n < 0)) (Nat.toDigits 10 n.natAbs) = .ok (.int n) := by
  rw [readDigits, if_neg (Nat.not_lt.2 h), decimalValue_toDigits]
  simp only [decide_eq_true_eq]
  split
  · congr 2
    omega
  · congr 2
    omega

/-- An integer that is not too long is read back, unless it is lengthened by what follows. -/
theorem readScalar_intText {n : Int} {rest : List Char} (hr : EndsValue rest)
    (h : (Nat.toDigits 10 n.natAbs).length ≤ Text.digitLimit) :
    Gives (readScalar (intText n ++ rest)) (.int n) rest := by
  unfold readScalar
  split
  · rename_i hw
    rw [readWord?_intText] at hw
    cases hw
  · split
    · rename_i value behind hv
      rw [hr.readNumber?_intText, readDigits_toDigits h] at hv
      cases hv
      exact ⟨_, rfl, rfl, rfl⟩
    · rename_i fault behind hv
      rw [hr.readNumber?_intText, readDigits_toDigits h] at hv
      cases hv
    · rename_i hv
      rw [hr.readNumber?_intText] at hv
      cases hv

/-- A longer one is not read. -/
theorem readScalar_intText_of_long {n : Int}
    (h : Text.digitLimit < (Nat.toDigits 10 n.natAbs).length) :
    readScalar (intText n) = .error (.longNumber (Nat.toDigits 10 n.natAbs).length) := by
  have number := endsValue_nil.readNumber?_intText n
  have word := readWord?_intText n []
  rw [List.append_nil] at number word
  rw [readDigits, if_pos h] at number
  unfold readScalar
  split
  · rename_i hw
    rw [word] at hw
    cases hw
  · split
    · rename_i hv
      rw [number] at hv
      cases hv
    · rename_i hv
      rw [number] at hv
      cases hv
      rfl
    · rename_i hv
      rw [number] at hv
      cases hv

/-! ## Words -/

theorem readScalar_word {word : List Char} {value : Json} {rest : List Char}
    (h : readWord? (word ++ rest) = some (value, rest)) :
    Gives (readScalar (word ++ rest)) value rest := by
  unfold readScalar
  split
  · rename_i hw
    rw [h] at hw
    cases hw
    exact ⟨_, rfl, rfl, rfl⟩
  · rename_i hw
    rw [h] at hw
    cases hw

end SpannerDdl.Json
