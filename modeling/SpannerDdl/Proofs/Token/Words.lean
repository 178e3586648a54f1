import SpannerDdl.Token.Lexer

/-! # Words and statements among the tokens

Words are never empty, and the tokens of a statement are tokens of the text. -/

set_option autoImplicit false

namespace SpannerDdl

namespace Text

theorem ne_nil_of_mem_blankWordsFrom {cs word w : List Char}
    (h : w ∈ blankWordsFrom cs word) : w ≠ [] := by
  have reversed : ∀ {word : List Char}, ¬word.isEmpty → word.reverse ≠ [] := by
    intro word hw
    rw [Ne, List.reverse_eq_nil_iff]
    exact fun he => hw (List.isEmpty_iff.2 he)
  induction cs generalizing word with
  | nil =>
    rw [blankWordsFrom] at h
    split at h
    · cases h
    · rename_i hw
      rw [List.mem_singleton.1 h]
      exact reversed hw
  | cons c cs ih =>
    rw [blankWordsFrom] at h
    split at h
    · split at h
      · exact ih h
      · rename_i hw
        rcases List.mem_cons.1 h with rfl | h
        · exact reversed hw
        · exact ih h
    · exact ih h

theorem ne_nil_of_mem_blankWords {cs w : List Char} (h : w ∈ blankWords cs) : w ≠ [] :=
  ne_nil_of_mem_blankWordsFrom h

end Text

theorem Lexeme.text_ne_of_word {l : Lexeme} {t : Token} (h : t ∈ l.tokens)
    (hk : t.kind = .word) : t.text ≠ "" := by
  unfold tokens at h
  simp only at h
  split at h
  · cases List.mem_singleton.1 h; cases hk
  · cases List.mem_singleton.1 h; cases hk
  · cases List.mem_singleton.1 h; cases hk
  · split at h
    · split at h
      · obtain ⟨c, _, rfl⟩ := List.mem_map.1 h
        cases hk
      · cases List.mem_singleton.1 h; cases hk
    · obtain ⟨w, hw, rfl⟩ := List.mem_map.1 h
      intro he
      exact Text.ne_nil_of_mem_blankWords hw (String.ofList_eq_empty_iff.1 he)

theorem text_ne_of_word_of_tokenize {text source : String} {ts : List Token}
    (h : tokenize text source = .ok ts) {t : Token} (ht : t ∈ ts) (hk : t.kind = .word) :
    t.text ≠ "" := by
  unfold tokenize at h
  split at h
  · cases h
  · cases h
    obtain ⟨l, _, hl⟩ := List.mem_flatMap.1 ht
    exact Lexeme.text_ne_of_word hl hk

namespace Token

theorem mem_of_mem_statementsFrom {current ts s : List Token} {t : Token}
    (h : s ∈ statementsFrom current ts) (ht : t ∈ s) : t ∈ current ∨ t ∈ ts := by
  induction ts generalizing current with
  | nil =>
    rw [statementsFrom] at h
    split at h
    · cases h
    · rw [List.mem_singleton.1 h, List.mem_reverse] at ht
      exact .inl ht
  | cons t' ts ih =>
    rw [statementsFrom] at h
    split at h
    · split at h
      · rcases ih h with ht | ht
        · cases ht
        · exact .inr (List.mem_cons_of_mem t' ht)
      · rcases List.mem_cons.1 h with rfl | h
        · exact .inl (List.mem_reverse.1 ht)
        · rcases ih h with ht | ht
          · cases ht
          · exact .inr (List.mem_cons_of_mem t' ht)
    · rcases ih h with ht | ht
      · rcases List.mem_cons.1 ht with rfl | ht
        · exact .inr List.mem_cons_self
        · exact .inl ht
      · exact .inr (List.mem_cons_of_mem t' ht)

theorem mem_of_mem_statements {ts s : List Token} {t : Token} (h : s ∈ statements ts)
    (ht : t ∈ s) : t ∈ ts := by
  rcases mem_of_mem_statementsFrom h ht with ht | ht
  · cases ht
  · exact ht

end Token

end SpannerDdl
