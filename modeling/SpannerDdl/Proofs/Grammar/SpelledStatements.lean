import SpannerDdl.Grammar.Statement
import SpannerDdl.Proofs.Grammar.SpelledTables

/-! # Reading spelled statements

A whole statement is read back from its tokens with none left. Each change to a table is told by the
keywords in front, which clash with those of the others. -/

set_option autoImplicit false

namespace SpannerDdl

namespace Grammar

variable {word : String} {words : List String} {ks ts rest : List Token}

/-! ## Alterations -/

theorem exists_keyword_of_constraint {c : TableConstraint} (h : c.Spelled ts) :
    ∃ word k ts', ts = k :: ts' ∧ k.isKeyword word = true ∧
      word ∈ ["CONSTRAINT", "FOREIGN", "CHECK"] := by
  cases h with
  | named hk _ _ =>
    obtain ⟨k, ks', rfl, hk'⟩ := hk.exists_head
    exact ⟨"CONSTRAINT", k, _, rfl, hk', by decide⟩
  | unnamed h =>
    cases h with
    | foreignKey h =>
      cases h with
      | mk hk _ _ _ _ _ =>
        obtain ⟨k, ks', rfl, hk'⟩ := hk.exists_head
        exact ⟨"FOREIGN", k, _, rfl, hk', by decide⟩
    | check hk _ =>
      obtain ⟨k, ks', rfl, hk'⟩ := hk.exists_head
      exact ⟨"CHECK", k, _, rfl, hk', by decide⟩

theorem alteration_of_constraint {c : TableConstraint} {k : Token}
    (hk : k.isKeyword "ADD" = true) (h : c.Spelled ts) :
    alteration (k :: ts) = .ok (.addConstraint c, []) := by
  have hc := read_all (tableConstraint?_of_spelled h atSeparator_nil)
  obtain ⟨word, k', ts', rfl, hk', hword⟩ := exists_keyword_of_constraint h
  have hadd : Keywords ["ADD"] [k] := .cons hk .nil
  have hstart : Keywords ["ADD", word] [k, k'] := .cons hk (.cons hk' .nil)
  have hpolicy : keywords? ["ADD", "ROW", "DELETION", "POLICY"] ([k] ++ k' :: ts') = none := by
    have hall : ∀ word ∈ ["CONSTRAINT", "FOREIGN", "CHECK"],
        clash ["ADD", word] ["ADD", "ROW", "DELETION", "POLICY"] = true := by decide
    exact keywords?_of_clash hstart (hall word hword) ts'
  have hcolumn : keywords? ["ADD", "COLUMN"] ([k] ++ k' :: ts') = none := by
    have hall : ∀ word ∈ ["CONSTRAINT", "FOREIGN", "CHECK"],
        clash ["ADD", word] ["ADD", "COLUMN"] = true := by decide
    exact keywords?_of_clash hstart (hall word hword) ts'
  have hsecond : secondIsOneOf ["CONSTRAINT", "FOREIGN", "CHECK"] ([k] ++ k' :: ts') = true := by
    rw [Token.isKeyword, beq_iff_eq] at hk'
    show List.contains _ k'.upper = true
    rw [hk', List.contains_iff_mem]
    exact hword
  have hdrop : List.drop 1 ([k] ++ k' :: ts') = k' :: ts' := rfl
  show alteration ([k] ++ k' :: ts') = _
  simp (disch := decide) only [alteration, atKeywords, keywords?_of_clash hadd, hpolicy, hcolumn,
    keywords?_of_spelled hadd, hsecond, hdrop, hc]
  rfl

theorem alteration_of_interleaving {i : Interleaving} {k : Token} (hk : k.isKeyword "SET" = true)
    (h : i.Spelled ts) :
    alteration (k :: ts) = .ok (.setInterleaving i.parent i.onDelete, []) := by
  have hi := read_all (interleaving_of_spelled h atSeparator_nil)
  obtain ⟨ks, ts', rfl, hks⟩ : ∃ ks ts', ts = ks ++ ts' ∧ Keywords ["INTERLEAVE", "IN"] ks := by
    cases h with
    | mk hin _ _ _ => exact ⟨_, _, rfl, hin⟩
  cases hks with
  | @cons _ k' _ ks hk' _ =>
    have hset : Keywords ["SET", "INTERLEAVE"] [k, k'] := .cons hk (.cons hk' .nil)
    show alteration ([k, k'] ++ (ks ++ ts')) = _
    simp (disch := decide) only [alteration, atKeywords, keywords?_of_clash hset,
      keywords?_of_spelled hset]
    show (interleaving (k' :: ks ++ ts')).map _ = _
    rw [hi]
    rfl

theorem alteration_of_policy {p : PolicyDef} {k : Token} (h : p.Spelled ts) :
    (k.isKeyword "ADD" = true → alteration (k :: ts) = .ok (.addPolicy p, [])) ∧
      (k.isKeyword "REPLACE" = true → alteration (k :: ts) = .ok (.replacePolicy p, [])) := by
  have hp := read_all (rowDeletionPolicy_of_spelled h [])
  obtain ⟨ks, ts', rfl, hks⟩ : ∃ ks ts', ts = ks ++ ts' ∧
      Keywords ["ROW", "DELETION", "POLICY"] ks := by
    cases h with
    | mk hk _ _ _ _ _ _ _ _ _ _ => exact ⟨_, _, rfl, hk⟩
  refine ⟨fun hk => ?_, fun hk => ?_⟩
  · have hadd : Keywords ["ADD", "ROW", "DELETION", "POLICY"] (k :: ks) := .cons hk hks
    rw [← List.cons_append, alteration, if_pos (atKeywords_of_spelled hadd ts')]
    show (rowDeletionPolicy (ks ++ ts')).map _ = _
    rw [hp]
    rfl
  · have hreplace : Keywords ["REPLACE", "ROW", "DELETION", "POLICY"] (k :: ks) := .cons hk hks
    rw [← List.cons_append, alteration, atKeywords_of_clash hreplace (by decide),
      if_neg (by decide), if_pos (atKeywords_of_spelled hreplace ts')]
    show (rowDeletionPolicy (ks ++ ts')).map _ = _
    rw [hp]
    rfl

theorem alteration_of_rule {rule : OnDelete} {k : Token} (hk : k.isKeyword "SET" = true)
    (h : rule.Spelled ts) (stated : rule ≠ .unspecified) :
    alteration (k :: ts) = .ok (.setOnDelete rule, []) := by
  have hr := read_all (onDelete_of_spelled h (rfl : keywords? ["ON", "DELETE"] [] = none))
  obtain ⟨ks, ks', rfl, hks⟩ : ∃ ks ks', ts = ks ++ ks' ∧ Keywords ["ON", "DELETE"] ks := by
    cases h with
    | unspecified => exact absurd rfl stated
    | cascade h =>
      obtain ⟨ks, ks', hks, -, rfl⟩ := Keywords.exists_append ["ON", "DELETE"] ["CASCADE"] h
      exact ⟨ks, ks', rfl, hks⟩
    | noAction h =>
      obtain ⟨ks, ks', hks, -, rfl⟩ := Keywords.exists_append ["ON", "DELETE"] ["NO", "ACTION"] h
      exact ⟨ks, ks', rfl, hks⟩
  have hset : Keywords ["SET", "ON", "DELETE"] (k :: ks) := .cons hk hks
  rw [← List.cons_append]
  simp (disch := decide) only [alteration, atKeywords, keywords?_of_clash hset,
    keywords?_of_spelled hset]
  show (onDelete (ks ++ ks')).map _ = _
  rw [hr]
  rfl

theorem alteration_of_spelled {change : Alteration} (h : change.Spelled ts) :
    alteration ts = .ok (change, []) := by
  cases h with
  | @addColumn c b ks ifs ts hk hifs h =>
    have hb : accept ["IF", "NOT", "EXISTS"] (ifs ++ ts) = (b, ts) := by
      refine accept_of_clause hifs ?_
      obtain ⟨t, ts', rfl, ht⟩ := h.exists_head
      exact keywords?_of_ident ht (by decide) _ _
    have hc := read_all (columnDef_of_spelled h atSeparator_nil)
    simp (disch := decide) only [alteration, atKeywords, keywords?_of_clash hk,
      keywords?_of_spelled hk, hb, hc]
    rfl
  | addConstraint hk h => exact alteration_of_constraint hk h
  | dropColumn hk h =>
    have hi := read_all (ident_of_spelled h [])
    simp (disch := decide) only [alteration, atKeywords, keywords?_of_clash hk,
      keywords?_of_spelled hk, hi]
    rfl
  | dropConstraint hk h =>
    have hi := read_all (ident_of_spelled h [])
    simp (disch := decide) only [alteration, atKeywords, keywords?_of_clash hk,
      keywords?_of_spelled hk, hi]
    rfl
  | setInterleaving hk h => exact alteration_of_interleaving hk h
  | addPolicy hk h => exact (alteration_of_policy h).1 hk
  | replacePolicy hk h => exact (alteration_of_policy h).2 hk
  | dropPolicy h =>
    have hr := keywords?_of_spelled h []
    have hother : ∀ {others}, clash ["DROP", "ROW", "DELETION", "POLICY"] others = true →
        keywords? others ts = none := by
      intro others ho
      have hn := keywords?_of_clash h ho []
      rwa [List.append_nil] at hn
    rw [List.append_nil] at hr
    simp (disch := decide) only [alteration, atKeywords, hother, hr]
    rfl
  | alterColumn hk h =>
    simp (disch := decide) only [alteration, atKeywords, keywords?_of_clash hk,
      keywords?_of_spelled hk, ident_of_spelled h]
    rfl
  | setOnDelete hk h stated => exact alteration_of_rule hk h stated
  | setOptions hk h =>
    have hg := read_all (balancedText_of_group h [])
    simp (disch := decide) only [alteration, atKeywords, keywords?_of_clash hk,
      keywords?_of_spelled hk, hg]
    rfl

/-- No alteration can be taken for a point behind the name of the table. -/
theorem punct?_of_alteration {change : Alteration} (h : change.Spelled ts) (text : String) :
    punct? text ts = none := by
  have one : ∀ {word k ts}, word ≠ "" → k.isKeyword word = true → punct? text (k :: ts) = none := by
    intro word k ts given hk
    exact punct?_of_spelled (.cons hk .nil) given text ts
  cases h with
  | addColumn hk _ _ => exact punct?_of_spelled hk (by decide) text _
  | addConstraint hk _ => exact one (by decide) hk
  | dropColumn hk _ => exact punct?_of_spelled hk (by decide) text _
  | dropConstraint hk _ => exact punct?_of_spelled hk (by decide) text _
  | setInterleaving hk _ => exact one (by decide) hk
  | addPolicy hk _ => exact one (by decide) hk
  | replacePolicy hk _ => exact one (by decide) hk
  | dropPolicy h =>
    obtain ⟨k, ks', rfl, hk⟩ := h.exists_head
    exact one (by decide) hk
  | alterColumn hk _ => exact punct?_of_spelled hk (by decide) text _
  | setOnDelete hk _ _ => exact one (by decide) hk
  | setOptions hk _ => exact punct?_of_spelled hk (by decide) text _

/-! ## Indexes -/

theorem indexModifiers_of_keyword {unique nullFiltered : Bool} (h : Keywords ["INDEX"] ks) :
    indexModifiers unique nullFiltered (ks ++ rest) = (unique, nullFiltered, ks ++ rest) := by
  obtain ⟨k, ks', rfl, hk⟩ := h.exists_head
  simp [indexModifiers, Token.isKeyword_of_isKeyword hk]

theorem indexModifiers_of_spelled {unique nullFiltered : Bool} {us ns : List Token}
    (hunique : Clause (Keywords ["UNIQUE"]) unique us)
    (hnull : Clause (Keywords ["NULL_FILTERED"]) nullFiltered ns) (h : Keywords ["INDEX"] ks) :
    indexModifiers false false (us ++ (ns ++ (ks ++ rest))) =
      (unique, nullFiltered, ks ++ rest) := by
  have hn : ∀ b, indexModifiers b false (ns ++ (ks ++ rest)) = (b, nullFiltered, ks ++ rest) := by
    intro b
    cases hnull with
    | absent =>
      rw [List.nil_append]
      exact indexModifiers_of_keyword h
    | given hnull =>
      cases hnull with
      | cons hk hnil =>
        cases hnil
        rw [List.singleton_append, indexModifiers, Token.isKeyword_of_isKeyword hk,
          if_neg (by decide), if_pos hk, indexModifiers_of_keyword h]
  cases hunique with
  | absent => exact hn false
  | given hunique =>
    cases hunique with
    | cons hk hnil =>
      cases hnil
      rw [List.singleton_append, indexModifiers, if_pos hk, hn]

theorem storing_of_spelled {names : Option (List Ident)} (h : StoringSpelled names ts)
    (hr : AtSeparator rest) : storing (ts ++ rest) = .ok (names, rest) := by
  cases h with
  | absent => rw [List.nil_append, storing, hr.keywords?_eq (by decide)]
  | given hk h =>
    rw [List.append_assoc, storing, keywords?_of_spelled hk]
    simp only [identList_of_spelled h]
    rfl

theorem indexInterleaving_of_spelled {parent : Option Ident}
    (h : Behind IndexParentSpelled parent ts) : indexInterleaving ts = .ok (parent, []) := by
  cases h with
  | absent => rfl
  | given hc h =>
    cases h with
    | mk hk h =>
      have hi := read_all (ident_of_spelled h [])
      rw [indexInterleaving, punct?_of_isPunct hc]
      simp only [expectKeywords_of_spelled hk, ok_bind, hi]
      rfl

theorem skipCondition_of_atSeparator (h : AtSeparator rest) : skipCondition rest = rest := by
  rw [skipCondition, h.keywords?_eq (by decide)]

theorem createIndex_of_spelled {i : CreateIndex} (h : i.Spelled ts) :
    createIndex ts = .ok (i, []) := by
  cases h with
  | @mk ks unique nullFiltered ks' ifs name on' table keys stored parent hk hunique hnull hk' hifs
      hname hon htable hkeys hstored hparent =>
    have hend : AtSeparator parent := by
      simpa using atSeparator_of_behind hparent atSeparator_nil
    rw [createIndex, expectKeywords_of_spelled hk, ok_bind]
    simp only [indexModifiers_of_spelled hunique hnull hk', expectKeywords_of_spelled hk', ok_bind,
      accept_of_clause hifs (keywords?_of_path hname (by decide) _ _),
      path_of_spelled hname (punct?_of_spelled hon (by decide) _ _),
      expectKeywords_of_spelled hon, path_of_spelled htable (punct?_of_listed hkeys (by decide) _),
      keyList_of_spelled hkeys, storing_of_spelled hstored hend,
      skipCondition_of_atSeparator hend, indexInterleaving_of_spelled hparent]
    rfl

theorem startsIndex_of_spelled {i : CreateIndex} (h : i.Spelled ts) : startsIndex ts = true := by
  cases h with
  | mk hk hunique hnull hk' _ _ _ _ _ _ _ =>
    rw [startsIndex, keywords?_of_spelled hk]
    simp only [indexModifiers_of_spelled hunique hnull hk']
    exact atKeywords_of_spelled hk' _

theorem keywords?_of_clause {others : List String} {b : Bool} (h : Clause (Keywords words) b ks)
    (hc : clash words others = true) (hr : keywords? others rest = none) :
    keywords? others (ks ++ rest) = none := by
  cases h with
  | absent => exact hr
  | given hk => exact keywords?_of_clash hk hc rest

/-- No index can be taken for a table. -/
theorem atKeywords_of_index {i : CreateIndex} (h : i.Spelled ts) :
    atKeywords ["CREATE", "TABLE"] ts = false ∧ atKeywords ["ALTER", "TABLE"] ts = false := by
  cases h with
  | mk hk hunique hnull hk' _ _ _ _ _ _ _ =>
    refine ⟨?_, atKeywords_of_clash hk (by decide) _⟩
    cases hk with
    | cons hc hnil =>
      cases hnil
      rw [atKeywords, List.singleton_append, keywords?, if_pos hc,
        keywords?_of_clause hunique (by decide)
          (keywords?_of_clause hnull (by decide) (keywords?_of_clash hk' (by decide) _))]
      rfl

/-! ## Statements -/

theorem statement_of_spelled {s : Statement} (h : s.Spelled ts) : statement ts = .ok s := by
  cases h with
  | createTable h =>
    have start : atKeywords ["CREATE", "TABLE"] ts = true := by
      cases h with
      | mk hk _ _ _ _ _ _ => exact atKeywords_of_spelled hk _
    rw [statement, if_pos start, createTable_of_spelled h]
    rfl
  | @alterTable name change ks ns ts hk hname h =>
    have read : alterTable (ks ++ (ns ++ ts)) = .ok (.alterTable name change, []) := by
      rw [alterTable, expectKeywords_of_spelled hk, ok_bind]
      simp only [path_of_spelled hname (punct?_of_alteration h "."), ok_bind,
        alteration_of_spelled h]
      rfl
    rw [statement, atKeywords_of_clash hk (by decide), if_neg (by decide),
      if_pos (atKeywords_of_spelled hk _), read]
    rfl
  | createIndex h =>
    rw [statement, (atKeywords_of_index h).1, (atKeywords_of_index h).2,
      startsIndex_of_spelled h, createIndex_of_spelled h]
    rfl

end Grammar

end SpannerDdl
