import SpannerDdl.Proofs.Grammar.Spelling

/-! # Reading spelled names, values and types

Each reader of the grammar reads back what is spelled at the front of the tokens and leaves what is
behind it, if that cannot be taken for a part of it.

* `clash`: keywords that cannot be taken for others.
* `AtSeparator`, `EndsType`: what may stand behind an element of a list, and behind a type. -/

set_option autoImplicit false

namespace SpannerDdl

/-! ## Kinds of tokens -/

namespace Token

variable {t : Token} {text word : String}

theorem isKeyword_of_isKeyword (h : t.isKeyword word = true) (other : String) :
    t.isKeyword other = (word == other) := by
  rw [isKeyword, beq_iff_eq] at h
  rw [isKeyword, h]

theorem kind_of_isKeyword (h : t.isKeyword word = true) (given : word ≠ "") : t.kind = .word := by
  rw [isKeyword, beq_iff_eq] at h
  unfold upper at h
  split at h
  · assumption
  · exact absurd h.symm given

theorem isPunct_of_isKeyword (h : t.isKeyword word = true) (given : word ≠ "") (other : String) :
    t.isPunct other = false := by
  rw [isPunct, kind_of_isKeyword h given]
  rfl

theorem kind_of_isPunct (h : t.isPunct text = true) : t.kind = .punct := by
  rw [isPunct, Bool.and_eq_true, beq_iff_eq] at h
  exact h.1

theorem isPunct_of_isPunct (h : t.isPunct text = true) (other : String) :
    t.isPunct other = (text == other) := by
  rw [isPunct, Bool.and_eq_true, beq_iff_eq, beq_iff_eq] at h
  rw [isPunct, h.1, h.2]
  rfl

theorem isKeyword_of_isPunct (h : t.isPunct text = true) {word : String} (given : word ≠ "") :
    t.isKeyword word = false := by
  rw [isKeyword, upper, kind_of_isPunct h, beq_eq_false_iff_ne]
  exact given.symm

theorem isKeyword_of_ident (h : t.kind = .ident) {word : String} (given : word ≠ "") :
    t.isKeyword word = false := by
  rw [isKeyword, upper, h, beq_eq_false_iff_ne]
  exact given.symm

theorem isPunct_of_ident (h : t.kind = .ident) (other : String) : t.isPunct other = false := by
  rw [isPunct, h]
  rfl

end Token

theorem Ident.Spelled.exists_head {i : Ident} {ts : List Token}
    (h : i.Spelled ts) : ∃ t ts', ts = t :: ts' ∧ t.kind = .ident := by
  cases h with
  | named ht => exact ⟨_, _, rfl, ht⟩

theorem KeyPart.Spelled.exists_head {k : KeyPart} {ts : List Token} (h : k.Spelled ts) :
    ∃ t ts', ts = t :: ts' ∧ t.kind = .ident := by
  cases h with
  | plain ht => exact ⟨_, _, rfl, ht⟩
  | directed ht _ => exact ⟨_, _, rfl, ht⟩

theorem ColumnDef.Spelled.exists_head {c : ColumnDef} {ts : List Token} (h : c.Spelled ts) :
    ∃ t ts', ts = t :: ts' ∧ t.kind = .ident := by
  cases h with
  | mk hname _ _ _ _ _ _ =>
    obtain ⟨t, ts', rfl, ht⟩ := hname.exists_head
    exact ⟨t, _, rfl, ht⟩

namespace Grammar

variable {words : List String} {ks rest : List Token}

/-! ## Keywords -/

theorem keywords?_of_spelled (h : Keywords words ks) (rest : List Token) :
    keywords? words (ks ++ rest) = some rest := by
  induction h with
  | nil => rfl
  | cons hw _ ih => rw [List.cons_append, keywords?, if_pos hw, ih]

theorem expectKeywords_of_spelled (h : Keywords words ks) (rest : List Token) :
    expectKeywords words (ks ++ rest) = .ok rest := by
  rw [expectKeywords, keywords?_of_spelled h]

theorem accept_of_spelled (h : Keywords words ks) (rest : List Token) :
    accept words (ks ++ rest) = (true, rest) := by
  rw [accept, keywords?_of_spelled h]

theorem atKeywords_of_spelled (h : Keywords words ks) (rest : List Token) :
    atKeywords words (ks ++ rest) = true := by
  rw [atKeywords, keywords?_of_spelled h]
  rfl

/-- Two lists of keywords differ in a place that both have. -/
def clash : List String → List String → Bool
  | word :: words, other :: others => word != other || clash words others
  | _, _ => false

theorem keywords?_of_clash (h : Keywords words ks) {others : List String}
    (hc : clash words others = true) (rest : List Token) :
    keywords? others (ks ++ rest) = none := by
  induction h generalizing others with
  | nil => cases hc
  | @cons word t words ts hw _ ih =>
    cases others with
    | nil => cases hc
    | cons other others =>
      rw [List.cons_append, keywords?, Token.isKeyword_of_isKeyword hw]
      split
      · rename_i he
        rw [clash, bne, he] at hc
        exact ih hc
      · rfl

theorem atKeywords_of_clash (h : Keywords words ks) {others : List String}
    (hc : clash words others = true) (rest : List Token) :
    atKeywords others (ks ++ rest) = false := by
  rw [atKeywords, keywords?_of_clash h hc]
  rfl

theorem keywords?_of_isPunct {t : Token} {text word : String} (h : t.isPunct text = true)
    (given : word ≠ "") (words : List String) (ts : List Token) :
    keywords? (word :: words) (t :: ts) = none := by
  rw [keywords?, Token.isKeyword_of_isPunct h given]
  rfl

theorem keywords?_of_ident {t : Token} {word : String} (h : t.kind = .ident)
    (given : word ≠ "") (words : List String) (ts : List Token) :
    keywords? (word :: words) (t :: ts) = none := by
  rw [keywords?, Token.isKeyword_of_ident h given]
  rfl

theorem Keywords.exists_head {word : String} {words : List String} {ks : List Token}
    (h : Keywords (word :: words) ks) : ∃ k ks', ks = k :: ks' ∧ k.isKeyword word = true := by
  cases h with
  | cons hk _ => exact ⟨_, _, rfl, hk⟩

theorem Keywords.exists_append (words words' : List String) {ts : List Token}
    (h : Keywords (words ++ words') ts) :
    ∃ ks ks', Keywords words ks ∧ Keywords words' ks' ∧ ts = ks ++ ks' := by
  induction words generalizing ts with
  | nil => exact ⟨[], ts, .nil, h, rfl⟩
  | cons word words ih =>
    cases h with
    | cons hw h =>
      obtain ⟨ks, ks', hk, hk', rfl⟩ := ih h
      exact ⟨_ :: ks, ks', .cons hw hk, hk', rfl⟩

theorem punct?_of_spelled {word : String} (h : Keywords (word :: words) ks) (given : word ≠ "")
    (text : String) (rest : List Token) : punct? text (ks ++ rest) = none := by
  obtain ⟨k, ks', rfl, hk⟩ := h.exists_head
  rw [List.cons_append, punct?, Token.isPunct_of_isKeyword hk given]
  rfl

/-! ## Punctuation -/

theorem punct?_of_isPunct {t : Token} {text : String} (h : t.isPunct text = true)
    (ts : List Token) : punct? text (t :: ts) = some ts := by
  rw [punct?, if_pos h]

theorem expectPunct_of_isPunct {t : Token} {text : String} (h : t.isPunct text = true)
    (ts : List Token) : expectPunct text (t :: ts) = .ok ts := by
  rw [expectPunct, punct?_of_isPunct h]

theorem punct?_of_other {t : Token} {text other : String} (h : t.isPunct text = true)
    (hne : text ≠ other) (ts : List Token) : punct? other (t :: ts) = none := by
  rw [punct?, Token.isPunct_of_isPunct h, beq_eq_false_iff_ne.2 hne]
  rfl

theorem punct?_of_ident {t : Token} (h : t.kind = .ident) (text : String) (ts : List Token) :
    punct? text (t :: ts) = none := by
  rw [punct?, Token.isPunct_of_ident h]
  rfl

/-- Behind an element of a list: the end, a comma or a closing parenthesis comes next. -/
def AtSeparator (rest : List Token) : Prop :=
  ∀ t ∈ rest.head?, t.isPunct "," = true ∨ t.isPunct ")" = true

theorem atSeparator_nil : AtSeparator [] := by
  intro t ht
  cases ht

theorem atSeparator_cons {t : Token} (h : t.isPunct "," = true ∨ t.isPunct ")" = true)
    (ts : List Token) : AtSeparator (t :: ts) := by
  intro t' ht
  cases ht
  exact h

theorem AtSeparator.keywords?_eq (h : AtSeparator rest) {word : String} (given : word ≠ "")
    (words : List String) : keywords? (word :: words) rest = none := by
  cases rest with
  | nil => rfl
  | cons t ts =>
    rcases h t rfl with ht | ht
    · exact keywords?_of_isPunct ht given words ts
    · exact keywords?_of_isPunct ht given words ts

theorem AtSeparator.punct?_eq (h : AtSeparator rest) {text : String} (hcomma : "," ≠ text)
    (hclose : ")" ≠ text) : punct? text rest = none := by
  cases rest with
  | nil => rfl
  | cons t ts =>
    rcases h t rfl with ht | ht
    · exact punct?_of_other ht hcomma ts
    · exact punct?_of_other ht hclose ts

/-- Behind a type: neither a point nor an opening parenthesis comes next. -/
structure EndsType (rest : List Token) : Prop where
  noPoint : punct? "." rest = none
  noParenthesis : punct? "(" rest = none

theorem endsType_of_isPunct {t : Token} {text : String} (h : t.isPunct text = true)
    (hpoint : text ≠ ".") (hopen : text ≠ "(") (ts : List Token) : EndsType (t :: ts) :=
  ⟨punct?_of_other h hpoint ts, punct?_of_other h hopen ts⟩

theorem AtSeparator.endsType (h : AtSeparator rest) : EndsType rest :=
  ⟨h.punct?_eq (by decide) (by decide), h.punct?_eq (by decide) (by decide)⟩

theorem endsType_of_spelled {word : String} (h : Keywords (word :: words) ks)
    (given : word ≠ "") (rest : List Token) : EndsType (ks ++ rest) :=
  ⟨punct?_of_spelled h given _ _, punct?_of_spelled h given _ _⟩

theorem accept_of_clause {b : Bool} (h : Clause (Keywords words) b ks)
    (hr : keywords? words rest = none) : accept words (ks ++ rest) = (b, rest) := by
  cases h with
  | absent => rw [List.nil_append, accept, hr]
  | given h => exact accept_of_spelled h rest

/-! ## Names -/

theorem ident_of_spelled {i : Ident} {ts : List Token} (h : i.Spelled ts) (rest : List Token) :
    ident (ts ++ rest) = .ok (i, rest) := by
  cases h with
  | named h => simp [ident, ident?, h]

theorem ident?_of_ident {t : Token} (h : t.kind = .ident) : ident? t = some (.named t.text) := by
  simp [ident?, h]

theorem identsBehind_of_none {separator : String} {ts : List Token}
    (h : punct? separator ts = none) : identsBehind separator ts = .ok ([], ts) := by
  have hs : ∀ {s : Token} {ts : List Token}, punct? separator (s :: ts) = none →
      s.isPunct separator = false := by
    intro s ts h
    rw [punct?] at h
    split at h
    · cases h
    · rename_i hp
      exact Bool.eq_false_iff.2 hp
  unfold identsBehind
  split
  · rfl
  · rw [hs h]
    rfl
  · rw [hs h]
    rfl

theorem identsBehind_cons {separator : String} {s t : Token} {i : Ident} {is : List Ident}
    {ts rest : List Token} (hs : s.isPunct separator = true) (hi : ident? t = some i)
    (h : identsBehind separator ts = .ok (is, rest)) :
    identsBehind separator (s :: t :: ts) = .ok (i :: is, rest) := by
  rw [identsBehind, if_pos hs, hi]
  simp only [h]
  rfl

theorem identsBehind_of_spelled {separator : String} {s : Token} {is : List Ident}
    {ts rest : List Token} (h : Separated separator Ident.Spelled is ts)
    (hs : s.isPunct separator = true) (hr : punct? separator rest = none) :
    identsBehind separator (s :: (ts ++ rest)) = .ok (is, rest) := by
  induction h generalizing s with
  | last hi =>
    cases hi with
    | named ht => exact identsBehind_cons hs (ident?_of_ident ht) (identsBehind_of_none hr)
  | more hi hs' _ ih =>
    cases hi with
    | named ht =>
      simp only [List.cons_append, List.nil_append]
      exact identsBehind_cons hs (ident?_of_ident ht) (ih hs')

theorem idents_cons {separator : String} {t : Token} {i : Ident} {is : List Ident}
    {ts rest : List Token} (hi : ident? t = some i)
    (h : identsBehind separator ts = .ok (is, rest)) :
    idents separator (t :: ts) = .ok (i :: is, rest) := by
  have first : ident (t :: ts) = .ok (i, ts) := by
    rw [ident, hi]
  simp only [idents, first, ok_bind, h]
  rfl

theorem idents_of_spelled {separator : String} {is : List Ident} {ts rest : List Token}
    (h : Separated separator Ident.Spelled is ts) (hr : punct? separator rest = none) :
    idents separator (ts ++ rest) = .ok (is, rest) := by
  cases h with
  | last hi =>
    cases hi with
    | named ht => exact idents_cons (ident?_of_ident ht) (identsBehind_of_none hr)
  | more hi hs behind =>
    cases hi with
    | named ht =>
      simp only [List.cons_append, List.nil_append]
      exact idents_cons (ident?_of_ident ht) (identsBehind_of_spelled behind hs hr)

theorem path_of_spelled {p : Path} {ts rest : List Token} (h : p.Spelled ts)
    (hr : punct? "." rest = none) : path (ts ++ rest) = .ok (p, rest) := by
  rw [path, idents_of_spelled h hr]
  rfl

theorem Separated.exists_head {α : Type} {separator : String} {one : α → List Token → Prop}
    {p : Token → Prop} {as : List α} {ts : List Token} (h : Separated separator one as ts)
    (hone : ∀ a ts, one a ts → ∃ t ts', ts = t :: ts' ∧ p t) : ∃ t ts', ts = t :: ts' ∧ p t := by
  cases h with
  | last h => exact hone _ _ h
  | more h hs behind =>
    obtain ⟨t, ts', rfl, ht⟩ := hone _ _ h
    exact ⟨t, _, rfl, ht⟩

theorem atPunct_of_ident {t : Token} (h : t.kind = .ident) (text : String) (ts : List Token) :
    atPunct text (t :: ts) = false := by
  rw [atPunct, punct?_of_ident h]
  rfl

theorem atPunct_of_isPunct {t : Token} {text : String} (h : t.isPunct text = true)
    (ts : List Token) : atPunct text (t :: ts) = true := by
  rw [atPunct, punct?_of_isPunct h]
  rfl

/-- A reader of items up to a closing parenthesis reads the items of a list. -/
theorem Listed.exists_inside {α : Type} {one : α → List Token → Prop} {as : List α}
    {ts : List Token} {inside : List Token → Except Mismatch (List α × List Token)}
    (h : Listed one as ts)
    (hnone : ∀ q rest, q.isPunct ")" = true → inside (q :: rest) = .ok ([], q :: rest))
    (hsome : ∀ inner q rest, Separated "," one as inner → q.isPunct ")" = true →
      inside (inner ++ q :: rest) = .ok (as, q :: rest)) :
    ∃ p inner q, ts = p :: (inner ++ [q]) ∧ p.isPunct "(" = true ∧ q.isPunct ")" = true ∧
      ∀ rest, inside (inner ++ q :: rest) = .ok (as, q :: rest) := by
  cases h with
  | @none p q hp hq => exact ⟨p, [], q, rfl, hp, hq, fun rest => hnone q rest hq⟩
  | @some _ p q inner hp hi hq => exact ⟨p, inner, q, rfl, hp, hq, fun rest => hsome _ q rest hi hq⟩

theorem punct?_of_listed {α : Type} {one : α → List Token → Prop} {as : List α} {text : String}
    {ts : List Token}
    (h : Listed one as ts) (hne : "(" ≠ text) (rest : List Token) :
    punct? text (ts ++ rest) = none := by
  cases h with
  | none hp _ => exact punct?_of_other hp hne _
  | some hp _ _ => exact punct?_of_other hp hne _

theorem identList_of_spelled {is : List Ident} {ts : List Token}
    (h : Listed Ident.Spelled is ts) (rest : List Token) :
    identList (ts ++ rest) = .ok (is, rest) := by
  obtain ⟨p, inner, q, rfl, hp, hq, hi⟩ : ∃ p inner q, ts = p :: (inner ++ [q]) ∧
      p.isPunct "(" = true ∧ q.isPunct ")" = true ∧
      ∀ rest, identsInside (inner ++ q :: rest) = .ok (is, q :: rest) := by
    refine h.exists_inside ?_ ?_
    · intro q rest hq
      rw [identsInside, if_pos (atPunct_of_isPunct hq rest)]
    · intro inner q rest hi hq
      obtain ⟨t, ts', rfl, ht⟩ := hi.exists_head fun a ts ha => ha.exists_head
      rw [identsInside, List.cons_append, atPunct_of_ident ht, ← List.cons_append]
      exact idents_of_spelled hi (punct?_of_other hq (by decide) rest)
  simp only [identList, List.cons_append, List.append_assoc, List.nil_append,
    expectPunct_of_isPunct hp, ok_bind, hi, expectPunct_of_isPunct hq]
  rfl

/-! ## Keys -/

theorem direction?_of_atSeparator (h : AtSeparator rest) : direction? rest = (none, rest) := by
  cases rest with
  | nil => rfl
  | cons t ts =>
    have other : ∀ {word : String}, word ≠ "" → t.isKeyword word = false := by
      intro word given
      rcases h t rfl with ht | ht
      · exact Token.isKeyword_of_isPunct ht given
      · exact Token.isKeyword_of_isPunct ht given
    simp [direction?, other]

theorem keyPart_of_spelled {k : KeyPart} {ts : List Token} (h : k.Spelled ts)
    (hr : AtSeparator rest) : keyPart (ts ++ rest) = .ok (k, rest) := by
  cases h with
  | plain ht =>
    rw [keyPart, ident_of_spelled (.named ht), ok_bind]
    simp only [direction?_of_atSeparator hr]
    rfl
  | @directed t d direction ht hd =>
    have hdir : direction? (d :: rest) = (some direction, rest) := by
      cases direction with
      | asc => simp [direction?, Token.isKeyword_of_isKeyword hd, Direction.keyword]
      | desc => simp [direction?, Token.isKeyword_of_isKeyword hd, Direction.keyword]
    rw [keyPart, ← List.singleton_append, List.append_assoc, ident_of_spelled (.named ht), ok_bind]
    simp only [List.cons_append, List.nil_append, hdir]
    rfl

theorem keyParts_last {k : KeyPart} {ts : List Token} (h : keyPart ts = .ok (k, rest))
    (hr : punct? "," rest = none) : keyParts ts = .ok ([k], rest) := by
  rw [keyParts_eq, h, ok_bind]
  simp only [hr]

theorem keyParts_more {k : KeyPart} {ks : List KeyPart} {ts ts1 ts2 : List Token}
    (h : keyPart ts = .ok (k, ts1)) (hc : punct? "," ts1 = some ts2)
    (hs : keyParts ts2 = .ok (ks, rest)) : keyParts ts = .ok (k :: ks, rest) := by
  rw [keyParts_eq, h, ok_bind]
  simp only [hc, hs]
  rfl

theorem keyParts_of_spelled {ks : List KeyPart} {ts : List Token}
    (h : Separated "," KeyPart.Spelled ks ts) {q : Token} (hq : q.isPunct ")" = true)
    (rest : List Token) : keyParts (ts ++ q :: rest) = .ok (ks, q :: rest) := by
  induction h with
  | last hk =>
    exact keyParts_last (keyPart_of_spelled hk (atSeparator_cons (.inr hq) rest))
      (punct?_of_other hq (by decide) rest)
  | @more k ks s ts ts' hk hs _ ih =>
    rw [List.append_assoc, List.cons_append]
    exact keyParts_more (keyPart_of_spelled hk (atSeparator_cons (.inl hs) _))
      (punct?_of_isPunct hs _) ih

theorem keyList_of_spelled {ks : List KeyPart} {ts : List Token}
    (h : Listed KeyPart.Spelled ks ts) (rest : List Token) :
    keyList (ts ++ rest) = .ok (ks, rest) := by
  obtain ⟨p, inner, q, rfl, hp, hq, hi⟩ : ∃ p inner q, ts = p :: (inner ++ [q]) ∧
      p.isPunct "(" = true ∧ q.isPunct ")" = true ∧
      ∀ rest, keysInside (inner ++ q :: rest) = .ok (ks, q :: rest) := by
    refine h.exists_inside ?_ ?_
    · intro q rest hq
      rw [keysInside, if_pos (atPunct_of_isPunct hq rest)]
    · intro inner q rest hi hq
      obtain ⟨t, ts', rfl, ht⟩ := hi.exists_head fun a ts ha => ha.exists_head
      rw [keysInside, List.cons_append, atPunct_of_ident ht, ← List.cons_append]
      exact keyParts_of_spelled hi hq rest
  simp only [keyList, List.cons_append, List.append_assoc, List.nil_append,
    expectPunct_of_isPunct hp, ok_bind, hi, expectPunct_of_isPunct hq]
  rfl

/-! ## Groups in parentheses -/

theorem closing_append {g : List Token} (h : Balanced g) (depth : Nat) (ts : List Token) :
    closing depth (g ++ ts) = (closing depth ts).map fun p => (g ++ p.1, p.2) := by
  induction h generalizing depth ts with
  | nil => simp
  | other ho hc _ ih => simp [closing, ho, hc, ih, Function.comp_def]
  | @group p q inner g hp _ hq _ ih ih' =>
    have hq' : q.isPunct "(" = false := by
      rw [Token.isPunct_of_isPunct hq]
      rfl
    simp [closing, hp, hq, hq', ih, ih', Function.comp_def]

theorem balancedText_of_group {text : String} {ts : List Token} (h : Group text ts)
    (rest : List Token) : balancedText (ts ++ rest) = .ok (text, rest) := by
  cases h with
  | @mk p q g hp hg hq =>
    have hq' : q.isPunct "(" = false := by
      rw [Token.isPunct_of_isPunct hq]
      rfl
    have hc : closing 0 (g ++ q :: rest) = some (g, rest) := by
      rw [closing_append hg, closing, hq']
      simp [hq]
    rw [balancedText, balanced]
    simp only [List.cons_append, List.append_assoc, List.nil_append, punct?_of_isPunct hp, hc]
    rfl

/-! ## Sizes -/

/-- No text that begins with an at sign is a keyword of letters. -/
theorem text_ne_of_cast {t : Token} (h : t.isKeyword "CAST" = true) (cs : List Char) :
    t.text.toList ≠ '@' :: cs := by
  intro e
  have hk := Token.kind_of_isKeyword h (by decide)
  have hc : Text.upper t.text = "CAST" := by
    rw [Token.isKeyword, beq_iff_eq] at h
    simpa [Token.upper, hk] using h
  have hu := Text.upper_toList t.text
  rw [hc, e, List.flatMap_cons] at hu
  exact absurd (List.cons.inj hu).1 (by decide)

theorem intValue_of_number {t : Token} (h : t.kind = .number) (rest : List Token) :
    intValue (t :: rest) = .ok (.literal t.text, rest) := by
  unfold intValue
  exact if_pos h

theorem intValue_cast {v : IntValue} {c p a i q : Token} {ts : List Token}
    (hc : c.isKeyword "CAST" = true) (hp : p.isPunct "(" = true)
    (h : intValue ts = .ok (v, a :: i :: q :: rest)) (ha : a.isKeyword "AS" = true)
    (hi : i.isKeyword "INT64" = true) (hq : q.isPunct ")" = true) :
    intValue (c :: p :: ts) = .ok (.cast v, rest) := by
  have hk := Token.kind_of_isKeyword hc (by decide)
  have hat : isAt c = false := by
    have hne : c.text ≠ "@" := by
      intro e
      exact text_ne_of_cast hc [] (by rw [e]; rfl)
    simp [isAt, hne]
  have hparam : paramName? c = none := by
    unfold paramName?
    split
    · rename_i e
      exact absurd e (text_ne_of_cast hc _)
    · rfl
  have has : expectKeywords ["AS"] (a :: i :: q :: rest) = .ok (i :: q :: rest) :=
    expectKeywords_of_spelled (.cons ha .nil) _
  have hident : ident (i :: q :: rest) = .ok (.named i.text, q :: rest) := by
    simp [ident, ident?, Token.kind_of_isKeyword hi (by decide)]
  rw [intValue, if_neg (by rw [hk]; decide), if_neg (by rw [hat]; decide)]
  simp only [hparam, hc, hp, if_true, h, ok_bind, has, hident, expectPunct_of_isPunct hq]
  rfl

theorem intValue_of_spelled {v : IntValue} {ts : List Token} (h : v.Spelled ts)
    (rest : List Token) : intValue (ts ++ rest) = .ok (v, rest) := by
  induction h generalizing rest with
  | literal h => exact intValue_of_number h rest
  | @param a t ha h =>
    have hat : isAt a = true := by
      rw [Token.isPunct, Bool.and_eq_true] at ha
      rw [isAt, ha.1, ha.2]
      rfl
    have hi : ident (t :: rest) = .ok (.named t.text, rest) := ident_of_spelled (.named h) rest
    simp only [List.cons_append, List.nil_append]
    unfold intValue
    rw [if_neg (by rw [Token.kind_of_isPunct ha]; decide), if_pos hat, hi, ok_bind]
    rfl
  | cast hc hp _ ha hi hq ih =>
    simp only [List.cons_append, List.append_assoc, List.nil_append]
    exact intValue_cast hc hp (ih _) ha hi hq

/-- No size can be taken for the greatest size. -/
theorem keywords?_max_of_spelled {v : IntValue} {ts : List Token} (h : v.Spelled ts)
    (rest : List Token) : keywords? ["MAX"] (ts ++ rest) = none := by
  cases h with
  | literal h =>
    rw [List.singleton_append, keywords?, Token.isKeyword, Token.upper, h]
    rfl
  | param ha _ => exact keywords?_of_isPunct ha (by decide) _ _
  | cast hc _ _ _ _ _ => exact keywords?_of_clash (.cons hc .nil) (by decide) _

theorem arrow_of_spelled {ts : List Token} (h : ArrowSpelled ts) (rest : List Token) :
    arrow (ts ++ rest) = .ok rest := by
  cases h with
  | one h => simp only [List.cons_append, List.nil_append, arrow, punct?_of_isPunct h]
  | two h h' =>
    simp only [List.cons_append, List.nil_append, arrow, punct?_of_other h (by decide : "=" ≠ "=>"),
      expectPunct_of_isPunct h, ok_bind, expectPunct_of_isPunct h']

theorem vectorLength_of_none (h : punct? "(" rest = none) :
    vectorLength rest = .ok (.missing, rest) := by
  have start : vectorLengthStart? rest = none := by
    rw [vectorLengthStart?, h]
  rw [vectorLength, start]

theorem vectorLength_given {length : IntValue} {p k q : Token} {as ts : List Token}
    (hp : p.isPunct "(" = true) (hk : k.isKeyword "VECTOR_LENGTH" = true) (harrow : ArrowSpelled as)
    (h : intValue ts = .ok (length, q :: rest)) (hq : q.isPunct ")" = true) :
    vectorLength (p :: k :: (as ++ ts)) = .ok (length, rest) := by
  have start : vectorLengthStart? (p :: k :: (as ++ ts)) = some (as ++ ts) := by
    rw [vectorLengthStart?, punct?_of_isPunct hp]
    exact keywords?_of_spelled (.cons hk .nil) _
  rw [vectorLength, start]
  simp only [arrow_of_spelled harrow, ok_bind, h, expectPunct_of_isPunct hq]
  rfl

theorem vectorLength_of_spelled {length : IntValue} {ts : List Token}
    (h : LengthSpelled length ts) (hr : EndsType rest) :
    vectorLength (ts ++ rest) = .ok (length, rest) := by
  cases h with
  | absent => exact vectorLength_of_none hr.noParenthesis
  | given hp hk harrow h hq =>
    simp only [List.cons_append, List.append_assoc, List.nil_append]
    exact vectorLength_given hp hk harrow (intValue_of_spelled h _) hq

/-! ## Types -/

theorem path_of_typeWord {name : String} {t : Token} (h : TypeWord name t)
    (hr : punct? "." rest = none) : path (t :: rest) = .ok (⟨[.named t.text]⟩, rest) := by
  have named : ident? t = some (.named t.text) := by
    simp [ident?, h.isName.symm]
  rw [path, idents_cons named (identsBehind_of_none hr)]
  rfl

/-- A type that does not begin as an array does is read from its path. -/
theorem columnType_of_path {p : Path} {t : Token} {ts behind : List Token}
    (notArray : t.isKeyword "ARRAY" = false) (h : path (t :: ts) = .ok (p, behind)) :
    columnType (t :: ts) = namedType p behind := by
  unfold columnType
  rw [notArray, h]
  rfl

theorem columnType_of_typeWord {name : String} {t : Token} (h : TypeWord name t)
    (hr : punct? "." rest = none) :
    columnType (t :: rest) = namedType ⟨[.named t.text]⟩ rest :=
  columnType_of_path h.notArray (path_of_typeWord h hr)

theorem namedType_of_ne {p : Path} (hr : EndsType rest)
    (other : ∀ i, p.idents = [i] → Text.upper i.name ∉ scalarTypes) :
    namedType p rest = .ok (.named p.idents, rest) := by
  unfold namedType
  split
  · rename_i i hi
    have hs : scalarTypes.contains (Text.upper i.name) = false := by
      simpa using other i hi
    simp only [hr.noParenthesis, hs]
    rfl
  · rfl

theorem columnType_scalar {name : String} {t : Token} (ht : TypeWord name t)
    (h : name ∈ scalarTypes) (hr : EndsType rest) :
    columnType (t :: rest) = .ok (.scalar name, rest) := by
  rw [columnType_of_typeWord ht hr.noPoint, namedType]
  simp only [Ident.name_named, ht.upper, hr.noParenthesis, List.contains_iff_mem.2 h, if_true]

/-- The size of a type is read behind its name. -/
theorem columnType_of_size {name : String} {t p : Token} (ht : TypeWord name t)
    (hp : p.isPunct "(" = true) (ts : List Token) :
    columnType (t :: p :: ts) = sizedType name ts := by
  rw [columnType_of_typeWord ht (punct?_of_other hp (by decide) _), namedType]
  simp only [Ident.name_named, ht.upper, punct?_of_isPunct hp]

theorem columnType_greatest {name : String} {t p m q : Token} (ht : TypeWord name t)
    (hp : p.isPunct "(" = true) (hm : m.isKeyword "MAX" = true) (hq : q.isPunct ")" = true) :
    columnType (t :: p :: m :: q :: rest) = .ok (.sized name true .missing, rest) := by
  have hmax : keywords? ["MAX"] (m :: q :: rest) = some (q :: rest) :=
    keywords?_of_spelled (.cons hm .nil) _
  rw [columnType_of_size ht hp, sizedType]
  simp only [hmax, expectPunct_of_isPunct hq, ok_bind]
  rfl

theorem columnType_sized {name : String} {size : IntValue} {t p q : Token} {ts : List Token}
    (ht : TypeWord name t) (hp : p.isPunct "(" = true) (hmax : keywords? ["MAX"] ts = none)
    (h : intValue ts = .ok (size, q :: rest)) (hq : q.isPunct ")" = true) :
    columnType (t :: p :: ts) = .ok (.sized name false size, rest) := by
  rw [columnType_of_size ht hp, sizedType]
  simp only [hmax, h, expectPunct_of_isPunct hq, ok_bind]
  rfl

theorem columnType_array {item : ColumnType} {length : IntValue} {a p q : Token}
    {ts behind : List Token} (ha : a.isKeyword "ARRAY" = true) (hp : p.isPunct "<" = true)
    (h : columnType ts = .ok (item, q :: behind)) (hq : q.isPunct ">" = true)
    (hl : vectorLength behind = .ok (length, rest)) :
    columnType (a :: p :: ts) = .ok (.array item length, rest) := by
  unfold columnType
  simp only [ha, hp, if_true, h, ok_bind, expectPunct_of_isPunct hq, hl]
  rfl

theorem columnType_of_spelled {type : ColumnType} {ts : List Token} (h : type.Spelled ts)
    (hr : EndsType rest) : columnType (ts ++ rest) = .ok (type, rest) := by
  induction h generalizing rest with
  | scalar ht hs => exact columnType_scalar ht hs hr
  | greatest ht hp hm hq => exact columnType_greatest ht hp hm hq
  | sized ht hp h hq =>
    simp only [List.cons_append, List.append_assoc, List.nil_append]
    exact columnType_sized ht hp (keywords?_max_of_spelled h _) (intValue_of_spelled h _) hq
  | array ha hp _ hq hl ih =>
    simp only [List.cons_append, List.append_assoc]
    exact columnType_array ha hp (ih (endsType_of_isPunct hq (by decide) (by decide) _)) hq
      (vectorLength_of_spelled hl hr)
  | @named path' ts h other =>
    obtain ⟨t, ts', rfl, ht⟩ := Separated.exists_head h fun a ts ha => ha.exists_head
    have hp : path (t :: (ts' ++ rest)) = .ok (⟨path'⟩, rest) := path_of_spelled h hr.noPoint
    rw [List.cons_append, columnType_of_path (Token.isKeyword_of_ident ht (by decide)) hp]
    exact namedType_of_ne hr other

end Grammar

end SpannerDdl
