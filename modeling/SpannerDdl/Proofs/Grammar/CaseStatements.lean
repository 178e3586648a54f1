import SpannerDdl.Proofs.Grammar.Case

/-! # Statements in upper case

Keywords are read in any case, and nothing else that is read depends on case.

* `statement_of_sameButCase`: one statement, read from tokens that differ in case.
* `Statement.listOfTokens_of_sameButCase`: all the statements of a text. -/

set_option autoImplicit false

namespace SpannerDdl.Grammar

variable (ts : List Token)

/-! ## Columns -/

theorem identityOptions_foldCase : identityOptions (ts.map Token.foldCase) =
    folded (List.map Token.foldCase) (identityOptions ts) := by
  unfold identityOptions
  rw [atPunct_foldCase rfl]
  split
  · exact map_folded (balanced_foldCase ts) fun p => rfl
  · rfl

theorem columnOption_foldCase (c : ColumnDef) :
    columnOption c.foldCase (ts.map Token.foldCase) =
      folded (foldRest ColumnDef.foldCase) (columnOption c ts) := by
  unfold columnOption
  simp only [keywords?_foldCase]
  cases keywords? ["NOT", "NULL"] ts with
  | some rest => rfl
  | none => ?_
  cases keywords? ["PRIMARY", "KEY"] ts with
  | some rest => rfl
  | none => ?_
  cases keywords? ["HIDDEN"] ts with
  | some rest => rfl
  | none => ?_
  cases keywords? ["PLACEMENT", "KEY"] ts with
  | some rest => rfl
  | none => ?_
  cases keywords? ["DEFAULT"] ts with
  | some rest => exact map_folded (balancedText_foldCase rest) fun p => rfl
  | none => ?_
  cases keywords? ["AS"] ts with
  | some rest =>
    refine map_folded (balancedText_foldCase rest) fun p => ?_
    simp only [foldRest, accept_foldCase]
    rfl
  | none => ?_
  cases keywords? ["OPTIONS"] ts with
  | some rest => exact map_folded (balanced_foldCase rest) fun p => rfl
  | none => ?_
  cases keywords? ["AUTO_INCREMENT"] ts with
  | some rest => rfl
  | none => ?_
  cases keywords? ["GENERATED", "BY", "DEFAULT", "AS", "IDENTITY"] ts with
  | some rest => exact map_folded (identityOptions_foldCase rest) fun rest => rfl
  | none => rfl

theorem columnOptions_foldCase (c : ColumnDef) :
    columnOptions c.foldCase (ts.map Token.foldCase) =
      folded (foldRest ColumnDef.foldCase) (columnOptions c ts) := by
  have ends : ∀ ts : List Token, ((ts.map Token.foldCase).isEmpty ||
      atPunct "," (ts.map Token.foldCase) || atPunct ")" (ts.map Token.foldCase)) =
      (ts.isEmpty || atPunct "," ts || atPunct ")" ts) := by
    intro ts
    rw [List.isEmpty_map, atPunct_foldCase rfl, atPunct_foldCase rfl]
  fun_induction columnOptions c ts with
  | case1 c ts hs => rw [columnOptions_eq, ends, if_pos hs]; rfl
  | case2 c ts hs e he =>
    rw [columnOptions_eq, ends, if_neg hs, columnOption_foldCase, he]
    rfl
  | case3 c ts hs c1 ts1 h1 s1 ih =>
    rw [columnOptions_eq, ends, if_neg hs, columnOption_foldCase, h1]
    exact ih

theorem columnDef_foldCase :
    columnDef (ts.map Token.foldCase) = folded (foldRest ColumnDef.foldCase) (columnDef ts) := by
  refine bind_read (ident_foldCase ts) fun name ts => ?_
  refine bind_read (columnType_foldCase ts) fun type ts => ?_
  have start : ColumnDef.foldCase { name, type } =
      { name := name.foldCase, type := type.foldCase } := by
    simp only [ColumnDef.foldCase, @Text.toUpper_of_isCaseless "" rfl]
  have h := columnOptions_foldCase ts { name, type }
  rw [start] at h
  exact h

/-! ## Constraints -/

theorem onDelete_foldCase :
    onDelete (ts.map Token.foldCase) = folded (foldRest id) (onDelete ts) := by
  unfold onDelete
  simp only [keywords?_foldCase]
  cases keywords? ["ON", "DELETE"] ts with
  | none => rfl
  | some rest => ?_
  simp only [Option.map_some, keywords?_foldCase]
  cases keywords? ["CASCADE"] rest with
  | some rest => rfl
  | none => ?_
  cases keywords? ["NO", "ACTION"] rest with
  | some rest => rfl
  | none => rfl

theorem enforcement_foldCase :
    enforcement (ts.map Token.foldCase) = (enforcement ts).map Token.foldCase := by
  unfold enforcement
  rw [keywords?_foldCase]
  cases keywords? ["NOT", "ENFORCED"] ts with
  | some rest => rfl
  | none => simp only [Option.map_none, accept_foldCase]; rfl

theorem foreignKey_foldCase : foreignKey (ts.map Token.foldCase) =
    folded (foldRest ForeignKeyDef.foldCase) (foreignKey ts) := by
  refine bind_folded (expectKeywords_foldCase _ ts) fun ts => ?_
  refine bind_read (identList_foldCase ts) fun columns ts => ?_
  refine bind_folded (expectKeywords_foldCase _ ts) fun ts => ?_
  refine bind_read (path_foldCase ts) fun table ts => ?_
  refine bind_read (identList_foldCase ts) fun referenced ts => ?_
  refine bind_read (onDelete_foldCase ts) fun rule ts => ?_
  simp only [enforcement_foldCase]
  rfl

theorem constraintBody_foldCase : constraintBody (ts.map Token.foldCase) =
    folded (foldRest ConstraintBody.foldCase) (constraintBody ts) := by
  unfold constraintBody
  rw [atKeywords_foldCase, keywords?_foldCase]
  split
  · exact map_folded (foreignKey_foldCase ts) fun p => rfl
  · cases keywords? ["CHECK"] ts with
    | some rest => exact map_folded (balancedText_foldCase rest) fun p => rfl
    | none => rfl

theorem tableConstraint?_foldCase : tableConstraint? (ts.map Token.foldCase) =
    folded (foldRest (Option.map TableConstraint.foldCase)) (tableConstraint? ts) := by
  unfold tableConstraint?
  rw [keywords?_foldCase]
  cases keywords? ["CONSTRAINT"] ts with
  | some rest =>
    refine bind_read (ident_foldCase rest) fun name rest => ?_
    exact bind_read (constraintBody_foldCase rest) fun body rest => rfl
  | none =>
    simp only [Option.map_none, atKeywords_foldCase]
    split
    · exact map_folded (constraintBody_foldCase ts) fun p => rfl
    · rfl

/-! ## Elements of a table -/

def Element.foldCase : Element → Element
  | .column c => .column c.foldCase
  | .constraint c => .constraint c.foldCase
  | .synonym => .synonym

theorem Element.column?_foldCase (e : Element) :
    e.foldCase.column? = e.column?.map ColumnDef.foldCase := by
  cases e with
  | column c => rfl
  | constraint c => rfl
  | synonym => rfl

theorem Element.constraint?_foldCase (e : Element) :
    e.foldCase.constraint? = e.constraint?.map TableConstraint.foldCase := by
  cases e with
  | column c => rfl
  | constraint c => rfl
  | synonym => rfl

theorem element_foldCase :
    element (ts.map Token.foldCase) = folded (foldRest Element.foldCase) (element ts) := by
  unfold element
  rw [tableConstraint?_foldCase]
  rcases tableConstraint? ts with m | ⟨_ | c, ts⟩
  · rfl
  · simp only [folded, foldRest, Option.map_none, keywords?_foldCase]
    cases keywords? ["SYNONYM"] ts with
    | some rest => exact map_folded (balanced_foldCase rest) fun p => rfl
    | none => exact map_folded (columnDef_foldCase ts) fun p => rfl
  · rfl

theorem elements_foldCase : elements (ts.map Token.foldCase) =
    folded (foldRest (List.map Element.foldCase)) (elements ts) := by
  fun_induction elements ts with
  | case1 ts hs => rw [elements_eq, atPunct_foldCase rfl, if_pos hs]; rfl
  | case2 ts hs m he =>
    rw [elements_eq, atPunct_foldCase rfl, if_neg hs, element_foldCase, he]
    rfl
  | case3 ts hs e ts1 he hc =>
    rw [elements_eq, atPunct_foldCase rfl, if_neg hs, element_foldCase, he, folded, ok_bind]
    simp only [foldRest, @punct?_foldCase "," rfl, hc, Option.map_none]
    rfl
  | case4 ts hs e ts1 he ts2 hc s1 s2 ih =>
    rw [elements_eq, atPunct_foldCase rfl, if_neg hs, element_foldCase, he, folded, ok_bind]
    simp only [foldRest, @punct?_foldCase "," rfl, hc, Option.map_some]
    exact map_folded ih fun p => rfl

/-! ## Tables -/

theorem interleaving_foldCase : interleaving (ts.map Token.foldCase) =
    folded (foldRest Interleaving.foldCase) (interleaving ts) := by
  refine bind_folded (expectKeywords_foldCase _ ts) fun ts => ?_
  rw [accept_foldCase]
  refine bind_read (path_foldCase _) fun parent ts => ?_
  exact bind_read (onDelete_foldCase ts) fun rule ts => rfl

theorem rowDeletionPolicy_foldCase : rowDeletionPolicy (ts.map Token.foldCase) =
    folded (foldRest PolicyDef.foldCase) (rowDeletionPolicy ts) := by
  refine bind_folded (expectKeywords_foldCase _ ts) fun ts => ?_
  refine bind_folded (expectPunct_foldCase rfl ts) fun ts => ?_
  refine bind_folded (expectKeywords_foldCase _ ts) fun ts => ?_
  refine bind_folded (expectPunct_foldCase rfl ts) fun ts => ?_
  refine bind_read (ident_foldCase ts) fun column ts => ?_
  refine bind_folded (expectPunct_foldCase rfl ts) fun ts => ?_
  refine bind_folded (expectKeywords_foldCase _ ts) fun ts => ?_
  refine bind_read (intValue_foldCase ts) fun days ts => ?_
  refine bind_folded (expectKeywords_foldCase _ ts) fun ts => ?_
  refine bind_folded (expectPunct_foldCase rfl ts) fun ts => ?_
  exact bind_folded (expectPunct_foldCase rfl ts) fun ts => rfl

theorem tableClause_foldCase (t : CreateTable) :
    tableClause t.foldCase (ts.map Token.foldCase) =
      folded (foldRest CreateTable.foldCase) (tableClause t ts) := by
  unfold tableClause
  simp only [atKeywords_foldCase]
  split
  · exact map_folded (interleaving_foldCase ts) fun p => rfl
  split
  · exact map_folded (rowDeletionPolicy_foldCase ts) fun p => rfl
  · rfl

theorem tableClauses_foldCase (t : CreateTable) :
    tableClauses t.foldCase (ts.map Token.foldCase) =
      folded (foldRest CreateTable.foldCase) (tableClauses t ts) := by
  fun_induction tableClauses t ts with
  | case1 t ts hc => rw [tableClauses_eq, punct?_foldCase rfl, hc]; rfl
  | case2 t ts ts1 hc e he =>
    rw [tableClauses_eq, punct?_foldCase rfl, hc]
    simp only [Option.map_some, tableClause_foldCase, he]
    rfl
  | case3 t ts ts1 hc t1 ts2 he s1 s2 ih =>
    rw [tableClauses_eq, punct?_foldCase rfl, hc]
    simp only [Option.map_some, tableClause_foldCase, he]
    exact ih

theorem primaryKey_foldCase : primaryKey (ts.map Token.foldCase) =
    folded (foldRest (List.map KeyPart.foldCase)) (primaryKey ts) := by
  unfold primaryKey
  rw [keywords?_foldCase]
  cases keywords? ["PRIMARY", "KEY"] ts with
  | some rest => exact keyList_foldCase rest
  | none => rfl

theorem createTable_foldCase : createTable (ts.map Token.foldCase) =
    folded (foldRest CreateTable.foldCase) (createTable ts) := by
  refine bind_folded (expectKeywords_foldCase _ ts) fun ts => ?_
  rw [accept_foldCase]
  refine bind_read (path_foldCase _) fun name ts => ?_
  refine bind_folded (expectPunct_foldCase rfl ts) fun ts => ?_
  refine bind_read (elements_foldCase ts) fun es ts => ?_
  refine bind_folded (expectPunct_foldCase rfl ts) fun ts => ?_
  refine bind_read (primaryKey_foldCase ts) fun keys ts => ?_
  have columns : (es.map Element.foldCase).filterMap Element.column? =
      (es.filterMap Element.column?).map ColumnDef.foldCase := by
    rw [List.filterMap_map, List.map_filterMap]
    exact List.filterMap_congr fun e _ => e.column?_foldCase
  have constraints : (es.map Element.foldCase).filterMap Element.constraint? =
      (es.filterMap Element.constraint?).map TableConstraint.foldCase := by
    rw [List.filterMap_map, List.map_filterMap]
    exact List.filterMap_congr fun e _ => e.constraint?_foldCase
  simp only [columns, constraints]
  exact tableClauses_foldCase ts ⟨name, es.filterMap Element.column?, keys,
    es.filterMap Element.constraint?, none, none, _⟩

/-! ## Changes of a table -/

theorem secondIsOneOf_foldCase (words : List String) :
    secondIsOneOf words (ts.map Token.foldCase) = secondIsOneOf words ts := by
  match ts with
  | [] => rfl
  | [t] => rfl
  | t :: u :: ts =>
    show words.contains u.foldCase.upper = words.contains u.upper
    rw [Token.upper_foldCase]

theorem alteration_foldCase : alteration (ts.map Token.foldCase) =
    folded (foldRest Alteration.foldCase) (alteration ts) := by
  have tail : (ts.map Token.foldCase).drop 1 = (ts.drop 1).map Token.foldCase :=
    List.map_drop.symm
  unfold alteration
  simp only [atKeywords_foldCase, keywords?_foldCase, secondIsOneOf_foldCase, tail]
  split
  · exact map_folded (rowDeletionPolicy_foldCase _) fun p => rfl
  split
  · exact map_folded (rowDeletionPolicy_foldCase _) fun p => rfl
  cases keywords? ["DROP", "ROW", "DELETION", "POLICY"] ts with
  | some rest => rfl
  | none => ?_
  cases keywords? ["ADD", "COLUMN"] ts with
  | some rest =>
    simp only [Option.map_some, accept_foldCase]
    exact map_folded (columnDef_foldCase _) fun p => rfl
  | none => ?_
  simp only [Option.map_none]
  split
  · rw [tableConstraint?_foldCase]
    rcases tableConstraint? (ts.drop 1) with m | ⟨_ | c, rest⟩
    · rfl
    · rfl
    · rfl
  cases keywords? ["DROP", "COLUMN"] ts with
  | some rest => exact map_folded (ident_foldCase rest) fun p => rfl
  | none => ?_
  cases keywords? ["DROP", "CONSTRAINT"] ts with
  | some rest => exact map_folded (ident_foldCase rest) fun p => rfl
  | none => ?_
  simp only [Option.map_none]
  split
  · exact map_folded (interleaving_foldCase _) fun p => rfl
  split
  · exact map_folded (onDelete_foldCase _) fun p => rfl
  cases keywords? ["SET", "OPTIONS"] ts with
  | some rest => exact map_folded (balancedText_foldCase rest) fun p => rfl
  | none => ?_
  cases keywords? ["ALTER", "COLUMN"] ts with
  | some rest =>
    refine map_folded (ident_foldCase rest) fun p => ?_
    show (Alteration.alterColumn _ (Token.renderAll (p.2.map Token.foldCase)), _) = _
    rw [Token.renderAll_foldCase]
    rfl
  | none => ?_
  simp only [Option.map_none, List.isEmpty_map, Token.renderAll_foldCase]
  split <;> rfl

theorem alterTable_foldCase : alterTable (ts.map Token.foldCase) =
    folded (foldRest Statement.foldCase) (alterTable ts) := by
  refine bind_folded (expectKeywords_foldCase _ ts) fun ts => ?_
  refine bind_read (path_foldCase ts) fun name ts => ?_
  exact bind_read (alteration_foldCase ts) fun change ts => rfl

/-! ## Indexes -/

theorem indexModifiers_foldCase (unique nullFiltered : Bool) :
    indexModifiers unique nullFiltered (ts.map Token.foldCase) =
      ((indexModifiers unique nullFiltered ts).1, (indexModifiers unique nullFiltered ts).2.1,
        (indexModifiers unique nullFiltered ts).2.2.map Token.foldCase) := by
  induction ts generalizing unique nullFiltered with
  | nil => rfl
  | cons t ts ih =>
    simp only [List.map_cons, indexModifiers, Token.isKeyword_foldCase, ih]
    split
    · rfl
    · split <;> rfl

theorem startsIndex_foldCase : startsIndex (ts.map Token.foldCase) = startsIndex ts := by
  unfold startsIndex
  rw [keywords?_foldCase]
  cases keywords? ["CREATE"] ts with
  | none => rfl
  | some rest => simp only [Option.map_some, indexModifiers_foldCase, atKeywords_foldCase]

theorem storing_foldCase : storing (ts.map Token.foldCase) =
    folded (foldRest (Option.map (List.map Ident.foldCase))) (storing ts) := by
  unfold storing
  rw [keywords?_foldCase]
  cases keywords? ["STORING"] ts with
  | some rest => exact map_folded (identList_foldCase rest) fun p => rfl
  | none => rfl

theorem skipCondition_foldCase :
    skipCondition (ts.map Token.foldCase) = (skipCondition ts).map Token.foldCase := by
  have comma := @Token.isPunct_foldCase "," rfl
  unfold skipCondition
  rw [keywords?_foldCase]
  cases keywords? ["WHERE"] ts with
  | none => rfl
  | some rest =>
    simp only [Option.map_some, List.dropWhile_map, Function.comp_def, comma,
      Token.isKeyword_foldCase]

theorem indexInterleaving_foldCase : indexInterleaving (ts.map Token.foldCase) =
    folded (foldRest (Option.map Ident.foldCase)) (indexInterleaving ts) := by
  unfold indexInterleaving
  rw [punct?_foldCase rfl]
  cases punct? "," ts with
  | none => rfl
  | some rest =>
    refine bind_folded (expectKeywords_foldCase _ rest) fun rest => ?_
    exact bind_read (ident_foldCase rest) fun parent rest => rfl

theorem skipOptions_foldCase :
    skipOptions (ts.map Token.foldCase) = folded (List.map Token.foldCase) (skipOptions ts) := by
  unfold skipOptions
  rw [keywords?_foldCase]
  cases keywords? ["OPTIONS"] ts with
  | some rest => exact map_folded (balanced_foldCase rest) fun p => rfl
  | none => rfl

theorem createIndex_foldCase : createIndex (ts.map Token.foldCase) =
    folded (foldRest CreateIndex.foldCase) (createIndex ts) := by
  have parent : ∀ ts, indexInterleaving (skipCondition (ts.map Token.foldCase)) =
      folded (foldRest (Option.map Ident.foldCase)) (indexInterleaving (skipCondition ts)) := by
    intro ts
    rw [skipCondition_foldCase]
    exact indexInterleaving_foldCase _
  refine bind_folded (expectKeywords_foldCase _ ts) fun ts => ?_
  rw [indexModifiers_foldCase]
  refine bind_folded (expectKeywords_foldCase _ _) fun ts => ?_
  rw [accept_foldCase]
  refine bind_read (path_foldCase _) fun name ts => ?_
  refine bind_folded (expectKeywords_foldCase _ ts) fun ts => ?_
  refine bind_read (path_foldCase ts) fun table ts => ?_
  refine bind_read (keyList_foldCase ts) fun keys ts => ?_
  refine bind_read (storing_foldCase ts) fun stored ts => ?_
  refine bind_read (parent ts) fun parent ts => ?_
  exact bind_folded (skipOptions_foldCase ts) fun ts => rfl

/-! ## Any statement -/

variable {ts} {us : List Token}

theorem complete_folded {α β : Type} {g : α → β} {r : Except Mismatch (α × List Token)}
    {r' : Except Mismatch (β × List Token)} (hr : r' = folded (foldRest g) r) :
    complete r' = folded g (complete r) := by
  subst hr
  match r with
  | .error m => rfl
  | .ok (a, []) => rfl
  | .ok (a, t :: ts) => rfl

theorem leadingText_eq {t u : Token} (h : Token.SameButCase t u) :
    leadingText t = leadingText u := by
  unfold leadingText
  rw [h.upper_eq]
  split
  · rename_i he
    by_cases hk : t.kind = .word
    · have ht : t.text = "" := by
        have s1 : t.upper = "" := by
          rw [h.upper_eq]
          exact beq_iff_eq.1 he
        rw [Token.upper, hk] at s1
        exact Text.upper_eq_empty_iff.1 s1
      have hu : u.text = "" := by
        have s1 : u.upper = "" := beq_iff_eq.1 he
        rw [Token.upper, ← h.kind, hk] at s1
        exact Text.upper_eq_empty_iff.1 s1
      rw [ht, hu]
    · exact h.text hk
  · rfl

theorem leadingKeywords_eq (h : List.Forall₂ Token.SameButCase ts us) :
    leadingKeywords ts = leadingKeywords us := by
  cases h with
  | nil => rfl
  | cons ht h =>
    cases h with
    | nil => exact leadingText_eq ht
    | cons hn h => rw [leadingKeywords, leadingKeywords, leadingText_eq ht, hn.upper_eq]

theorem complete_map_eq {α : Type} {g : α → α} {f : α → Statement}
    {read : List Token → Except Mismatch (α × List Token)}
    (hread : ∀ ts, read (ts.map Token.foldCase) = folded (foldRest g) (read ts))
    (hf : ∀ a, f (g a) = (f a).foldCase) (e : ts.map Token.foldCase = us.map Token.foldCase) :
    folded Statement.foldCase ((complete (read ts)).map f) =
      folded Statement.foldCase ((complete (read us)).map f) := by
  rw [← map_folded (complete_folded (hread ts)) hf, ← map_folded (complete_folded (hread us)) hf, e]

/-- Tokens that differ in case only are read as the same statement up to letter case, or the
reading fails at the same place. -/
theorem statement_of_sameButCase (h : List.Forall₂ Token.SameButCase ts us) :
    folded Statement.foldCase (statement ts) = folded Statement.foldCase (statement us) := by
  have e := Token.map_foldCase_eq h
  have words : ∀ words, atKeywords words ts = atKeywords words us := by
    intro words
    rw [← atKeywords_foldCase, e, atKeywords_foldCase]
  have index : startsIndex ts = startsIndex us := by
    rw [← startsIndex_foldCase, e, startsIndex_foldCase]
  unfold statement
  rw [words, words, index]
  split
  · exact complete_map_eq createTable_foldCase (fun t => rfl) e
  split
  · rw [← complete_folded (alterTable_foldCase ts), ← complete_folded (alterTable_foldCase us), e]
  split
  · exact complete_map_eq createIndex_foldCase (fun i => rfl) e
  · -- Not by upper case: a quoted name at the front counts as it is written.
    show Except.ok (Statement.other (leadingKeywords ts).toUpper (Token.renderAll ts).toUpper) =
      Except.ok (Statement.other (leadingKeywords us).toUpper (Token.renderAll us).toUpper)
    rw [leadingKeywords_eq h, ← Token.renderAll_foldCase ts, e, Token.renderAll_foldCase]

/-! ## Where reading fails -/

theorem place_foldCase (m : Mismatch) (ts : List Token) (source : String) :
    ((m.foldCase.sourceError (ts.map Token.foldCase) source).line,
      (m.foldCase.sourceError (ts.map Token.foldCase) source).col) =
    ((m.sourceError ts source).line, (m.sourceError ts source).col) := by
  have s1 : ∀ t : Option Token, (t.map Token.foldCase).map (fun t => (t.line, t.col)) =
      t.map fun t => (t.line, t.col) := by
    intro t
    cases t with
    | none => rfl
    | some t => rfl
  simp only [Mismatch.sourceError, Mismatch.foldCase, List.head?_map, List.getLast?_map,
    ← Option.map_or, s1]

end SpannerDdl.Grammar

namespace SpannerDdl

/-- Errors at one place that ask for the same thing, whatever token they find there. -/
structure SourceError.SameButFound (e e' : SourceError) : Prop where
  line : e.line = e'.line
  col : e.col = e'.col
  expected : ∃ what found found', e.fault = .expected what found ∧ e'.fault = .expected what found'

namespace Statement

variable {ts us : List Token} (source : String)

theorem ofTokens_of_sameButCase (h : List.Forall₂ Token.SameButCase ts us) :
    (∃ s s', ofTokens source ts = .ok s ∧ ofTokens source us = .ok s' ∧
      s.foldCase = s'.foldCase) ∨
    (∃ e e', ofTokens source ts = .error e ∧ ofTokens source us = .error e' ∧
      e.SameButFound e') := by
  have read := Grammar.statement_of_sameButCase h
  unfold ofTokens
  cases ht : Grammar.statement ts with
  | ok s =>
    cases hu : Grammar.statement us with
    | ok s' =>
      rw [ht, hu] at read
      exact .inl ⟨s, s', rfl, rfl, Except.ok.inj read⟩
    | error m' =>
      rw [ht, hu] at read
      cases read
  | error m =>
    cases hu : Grammar.statement us with
    | ok s' =>
      rw [ht, hu] at read
      cases read
    | error m' =>
      rw [ht, hu] at read
      have same : m.foldCase = m'.foldCase := Except.error.inj read
      have place := Grammar.place_foldCase m ts source
      rw [same, Token.map_foldCase_eq h, Grammar.place_foldCase, Prod.mk.injEq] at place
      have expected : m.expected = m'.expected := by
        show m.foldCase.expected = m'.foldCase.expected
        rw [same]
      refine .inr ⟨_, _, rfl, rfl, place.1.symm, place.2.symm, m.expected, m.rest.head?,
        m'.rest.head?, rfl, ?_⟩
      rw [expected]
      rfl

theorem mapM_ofTokens_of_sameButCase {sts sus : List (List Token)}
    (h : List.Forall₂ (List.Forall₂ Token.SameButCase) sts sus) :
    (∃ ss ss', sts.mapM (ofTokens source) = .ok ss ∧ sus.mapM (ofTokens source) = .ok ss' ∧
      ss.map foldCase = ss'.map foldCase) ∨
    (∃ e e', sts.mapM (ofTokens source) = .error e ∧ sus.mapM (ofTokens source) = .error e' ∧
      e.SameButFound e') := by
  induction h with
  | nil => exact .inl ⟨[], [], rfl, rfl, rfl⟩
  | cons hs _ ih =>
    rw [List.mapM_cons, List.mapM_cons]
    rcases ofTokens_of_sameButCase source hs with ⟨s, s', h1, h2, hf⟩ | ⟨e, e', h1, h2, he⟩
    · rw [h1, h2]
      rcases ih with ⟨ss, ss', h3, h4, hfs⟩ | ⟨e, e', h3, h4, he⟩
      · rw [h3, h4]
        refine .inl ⟨s :: ss, s' :: ss', rfl, rfl, ?_⟩
        rw [List.map_cons, List.map_cons, hf, hfs]
      · rw [h3, h4]
        exact .inr ⟨e, e', rfl, rfl, he⟩
    · rw [h1, h2]
      exact .inr ⟨e, e', rfl, rfl, he⟩

/-- Keywords are read in any case: tokens that differ in the case of words only are all accepted
or all refused. The statements that are read are equal up to letter case, with the same scalar and
sized types; an error is at the same place and asks for the same thing. -/
theorem listOfTokens_of_sameButCase (h : List.Forall₂ Token.SameButCase ts us) :
    (∃ ss ss', listOfTokens source ts = .ok ss ∧ listOfTokens source us = .ok ss' ∧
      ss.map foldCase = ss'.map foldCase) ∨
    (∃ e e', listOfTokens source ts = .error e ∧ listOfTokens source us = .error e' ∧
      e.SameButFound e') :=
  mapM_ofTokens_of_sameButCase source (Token.forall₂_statements h)

/-- A table `T (Id int64)` with the given spellings of `CREATE`, `TABLE` and `INT64`. -/
def spelledTable (create table int64 : String) : List Token :=
  [⟨.word, create, 1, 6⟩, ⟨.word, table, 1, 12⟩, ⟨.word, "T", 1, 14⟩, ⟨.punct, "(", 1, 16⟩,
    ⟨.word, "Id", 1, 18⟩, ⟨.word, int64, 1, 24⟩, ⟨.punct, ")", 1, 25⟩]

theorem listOfTokens_of_spelledTable :
    List.Forall₂ Token.SameButCase (spelledTable "create" "Table" "int64")
      (spelledTable "CREATE" "TABLE" "INT64") ∧
    ∃ ss ss', listOfTokens "" (spelledTable "create" "Table" "int64") = .ok ss ∧
      listOfTokens "" (spelledTable "CREATE" "TABLE" "INT64") = .ok ss' ∧
      ss.map foldCase = ss'.map foldCase := by
  have same : List.Forall₂ Token.SameButCase (spelledTable "create" "Table" "int64")
      (spelledTable "CREATE" "TABLE" "INT64") :=
    .cons (.of_word (by decide) 1 6) <| .cons (.of_word (by decide) 1 12) <|
      .cons (.refl _) <| .cons (.refl _) <| .cons (.refl _) <|
      .cons (.of_word (by decide) 1 24) <| .cons (.refl _) .nil
  have accepted : (listOfTokens "" (spelledTable "create" "Table" "int64")).isOk = true := by
    decide +kernel
  rcases listOfTokens_of_sameButCase "" same with read | ⟨e, e', refused, -⟩
  · exact ⟨same, read⟩
  · rw [refused] at accepted
    cases accepted

end Statement

end SpannerDdl
