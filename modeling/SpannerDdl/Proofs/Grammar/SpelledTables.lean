import SpannerDdl.Grammar.Table
import SpannerDdl.Proofs.Grammar.SpelledParts

/-! # Reading spelled tables

The readers of columns, constraints and clauses read back what is spelled at the front of the tokens
and leave what is behind it. The options of a column are read one by one, in their order. -/

set_option autoImplicit false

namespace SpannerDdl

namespace Grammar

variable {word : String} {words : List String} {ks ts rest : List Token}

/-- What is read in front of any tokens is read where nothing is behind it. -/
theorem read_all {α : Type} {read : List Token → Except Mismatch (α × List Token)} {a : α}
    (h : read (ts ++ []) = .ok (a, [])) : read ts = .ok (a, []) := by
  rwa [List.append_nil] at h

/-! ## Columns -/

theorem columnOptions_of_atSeparator (c : ColumnDef) (h : AtSeparator rest) :
    columnOptions c rest = .ok (c, rest) := by
  rw [columnOptions, if_pos]
  cases rest with
  | nil => rfl
  | cons t ts =>
    rcases h t rfl with ht | ht
    · simp [atPunct_of_isPunct ht]
    · simp [atPunct_of_isPunct ht]

theorem columnOptions_step {c c' : ColumnDef} (h : Keywords (word :: words) ks)
    (given : word ≠ "") {behind : List Token}
    (option : columnOption c (ks ++ behind) = .ok (c', rest)) :
    columnOptions c (ks ++ behind) = columnOptions c' rest := by
  have more : ¬ ((ks ++ behind).isEmpty || atPunct "," (ks ++ behind) ||
      atPunct ")" (ks ++ behind)) = true := by
    have other : ∀ text, atPunct text (ks ++ behind) = false := by
      intro text
      rw [atPunct, punct?_of_spelled h given]
      rfl
    obtain ⟨k, ks', rfl, -⟩ := h.exists_head
    rw [other, other]
    simp
  rw [columnOptions_eq, if_neg more, option, ok_bind]

/-- A flag of a column is set if its keywords are there. -/
theorem columnOptions_of_clause {b : Bool} {c : ColumnDef} {f : Bool → ColumnDef}
    (h : Clause (Keywords (word :: words)) b ks) (given : word ≠ "") (absent : f false = c)
    (option : ∀ {ks}, Keywords (word :: words) ks →
      columnOption c (ks ++ rest) = .ok (f true, rest)) :
    columnOptions c (ks ++ rest) = columnOptions (f b) rest := by
  cases h with
  | absent => rw [absent, List.nil_append]
  | given hk => exact columnOptions_step hk given (option hk)

/-- A text of a column is kept if it is there. -/
theorem columnOptions_of_expression {after : List String} {text : String} {c : ColumnDef}
    {f : String → ColumnDef} (h : Expression (word :: words) after text ts) (given : word ≠ "")
    (absent : f "" = c)
    (option : ∀ {ks g ks'}, Keywords (word :: words) ks → Group text g → Keywords after ks' →
      columnOption c (ks ++ (g ++ (ks' ++ rest))) = .ok (f text, rest)) :
    columnOptions c (ts ++ rest) = columnOptions (f text) rest := by
  cases h with
  | absent => rw [absent, List.nil_append]
  | given hk hg hk' =>
    rw [List.append_assoc, List.append_assoc]
    exact columnOptions_step hk given (option hk hg hk')

theorem columnOption_notNull {c : ColumnDef} (h : Keywords ["NOT", "NULL"] ks) :
    columnOption c (ks ++ rest) = .ok ({ c with notNull := true }, rest) := by
  simp only [columnOption, keywords?_of_spelled h]

theorem columnOption_primaryKey {c : ColumnDef} (h : Keywords ["PRIMARY", "KEY"] ks) :
    columnOption c (ks ++ rest) = .ok ({ c with primaryKey := true }, rest) := by
  simp (disch := decide) only [columnOption, keywords?_of_clash h, keywords?_of_spelled h]

theorem columnOption_hidden {c : ColumnDef} (h : Keywords ["HIDDEN"] ks) :
    columnOption c (ks ++ rest) = .ok ({ c with isHidden := true }, rest) := by
  simp (disch := decide) only [columnOption, keywords?_of_clash h, keywords?_of_spelled h]

theorem columnOption_default {c : ColumnDef} {text : String} {g ks' : List Token}
    (h : Keywords ["DEFAULT"] ks) (hg : Group text g) (h' : Keywords [] ks') :
    columnOption c (ks ++ (g ++ (ks' ++ rest))) = .ok ({ c with defaultSql := text }, rest) := by
  cases h'
  simp (disch := decide) only [columnOption, keywords?_of_clash h, keywords?_of_spelled h,
    balancedText_of_group hg]
  rfl

theorem columnOption_generated {c : ColumnDef} {text : String} {g ks' : List Token}
    (h : Keywords ["AS"] ks) (hg : Group text g) (h' : Keywords ["STORED"] ks') :
    columnOption c (ks ++ (g ++ (ks' ++ rest))) = .ok ({ c with generatedSql := text }, rest) := by
  simp (disch := decide) only [columnOption, keywords?_of_clash h, keywords?_of_spelled h,
    balancedText_of_group hg]
  simp only [Except.map, accept_of_spelled h']

theorem endsType_of_clause {b : Bool} (h : Clause (Keywords (word :: words)) b ks)
    (given : word ≠ "") (hr : EndsType rest) : EndsType (ks ++ rest) := by
  cases h with
  | absent => exact hr
  | given hk => exact endsType_of_spelled hk given rest

theorem endsType_of_expression {after : List String} {text : String}
    (h : Expression (word :: words) after text ts) (given : word ≠ "") (hr : EndsType rest) :
    EndsType (ts ++ rest) := by
  cases h with
  | absent => exact hr
  | given hk _ _ =>
    rw [List.append_assoc]
    exact endsType_of_spelled hk given _

theorem columnDef_of_spelled {c : ColumnDef} (h : c.Spelled ts) (hr : AtSeparator rest) :
    columnDef (ts ++ rest) = .ok (c, rest) := by
  cases h with
  | @mk name type notNull key hidden default' generated hname htype hnotNull hkey hhidden hdefault
      hgenerated =>
    have hends : EndsType (notNull ++ (key ++ (hidden ++ (default' ++ (generated ++ rest))))) := by
      refine endsType_of_clause hnotNull (by decide) ?_
      refine endsType_of_clause hkey (by decide) ?_
      refine endsType_of_clause hhidden (by decide) ?_
      refine endsType_of_expression hdefault (by decide) ?_
      exact endsType_of_expression hgenerated (by decide) hr.endsType
    simp only [List.append_assoc]
    rw [columnDef, ident_of_spelled hname, ok_bind]
    simp only [columnType_of_spelled htype hends, ok_bind]
    calc columnOptions { name := c.name, type := c.type } _
      _ = columnOptions { name := c.name, type := c.type, notNull := c.notNull } _ :=
        columnOptions_of_clause (f := fun b => { name := c.name, type := c.type, notNull := b })
          hnotNull (by decide) rfl columnOption_notNull
      _ = columnOptions { c with isHidden := false, defaultSql := "", generatedSql := "" } _ :=
        columnOptions_of_clause (f := fun b =>
            { c with primaryKey := b, isHidden := false, defaultSql := "", generatedSql := "" })
          hkey (by decide) rfl columnOption_primaryKey
      _ = columnOptions { c with defaultSql := "", generatedSql := "" } _ :=
        columnOptions_of_clause
          (f := fun b => { c with isHidden := b, defaultSql := "", generatedSql := "" })
          hhidden (by decide) rfl columnOption_hidden
      _ = columnOptions { c with generatedSql := "" } _ :=
        columnOptions_of_expression (f := fun s => { c with defaultSql := s, generatedSql := "" })
          hdefault (by decide) rfl columnOption_default
      _ = columnOptions c rest :=
        columnOptions_of_expression (f := fun s => { c with generatedSql := s })
          hgenerated (by decide) rfl columnOption_generated
      _ = .ok (c, rest) := columnOptions_of_atSeparator c hr

/-! ## Constraints -/

theorem onDelete_of_spelled {rule : OnDelete} (h : rule.Spelled ts)
    (hr : keywords? ["ON", "DELETE"] rest = none) : onDelete (ts ++ rest) = .ok (rule, rest) := by
  cases h with
  | unspecified => rw [List.nil_append, onDelete, hr]
  | cascade h =>
    obtain ⟨ks, ks', hk, hk', rfl⟩ := Keywords.exists_append ["ON", "DELETE"] ["CASCADE"] h
    rw [List.append_assoc, onDelete, keywords?_of_spelled hk]
    simp only [keywords?_of_spelled hk']
  | noAction h =>
    obtain ⟨ks, ks', hk, hk', rfl⟩ := Keywords.exists_append ["ON", "DELETE"] ["NO", "ACTION"] h
    rw [List.append_assoc, onDelete, keywords?_of_spelled hk]
    simp (disch := decide) only [keywords?_of_clash hk', keywords?_of_spelled hk']

theorem enforcement_of_atSeparator (h : AtSeparator rest) : enforcement rest = rest := by
  rw [enforcement, h.keywords?_eq (by decide)]
  simp only [accept, h.keywords?_eq (by decide : "ENFORCED" ≠ "")]

theorem foreignKey_of_spelled {k : ForeignKeyDef} (h : k.Spelled ts) (hr : AtSeparator rest) :
    foreignKey (ts ++ rest) = .ok (k, rest) := by
  cases h with
  | mk hk hcolumns hrs htable hreferenced hrule =>
    simp only [List.append_assoc]
    rw [foreignKey, expectKeywords_of_spelled hk, ok_bind, identList_of_spelled hcolumns, ok_bind]
    simp only [expectKeywords_of_spelled hrs, ok_bind,
      path_of_spelled htable (punct?_of_listed hreferenced (by decide) _),
      identList_of_spelled hreferenced, onDelete_of_spelled hrule (hr.keywords?_eq (by decide) _),
      enforcement_of_atSeparator hr]
    rfl

theorem constraintBody_of_spelled {body : ConstraintBody} (h : body.Spelled ts)
    (hr : AtSeparator rest) : constraintBody (ts ++ rest) = .ok (body, rest) := by
  cases h with
  | foreignKey h =>
    have start : atKeywords ["FOREIGN", "KEY"] (ts ++ rest) = true := by
      cases h with
      | mk hk _ _ _ _ _ =>
        rw [List.append_assoc]
        exact atKeywords_of_spelled hk _
    rw [constraintBody, if_pos start, foreignKey_of_spelled h hr]
    rfl
  | check hk h =>
    rw [List.append_assoc, constraintBody, atKeywords_of_clash hk (by decide),
      keywords?_of_spelled hk]
    simp only [balancedText_of_group h]
    rfl

theorem start_of_constraintBody {body : ConstraintBody} (h : body.Spelled ts)
    (rest : List Token) :
    keywords? ["CONSTRAINT"] (ts ++ rest) = none ∧
      (atKeywords ["FOREIGN", "KEY"] (ts ++ rest) || atKeywords ["CHECK"] (ts ++ rest)) = true := by
  cases h with
  | foreignKey h =>
    cases h with
    | mk hk _ _ _ _ _ =>
      rw [List.append_assoc, atKeywords_of_spelled hk]
      exact ⟨keywords?_of_clash hk (by decide) _, rfl⟩
  | check hk h =>
    rw [List.append_assoc, atKeywords_of_spelled hk, Bool.or_true]
    exact ⟨keywords?_of_clash hk (by decide) _, rfl⟩

theorem tableConstraint?_of_spelled {c : TableConstraint} (h : c.Spelled ts)
    (hr : AtSeparator rest) : tableConstraint? (ts ++ rest) = .ok (some c, rest) := by
  cases h with
  | named hk hname h =>
    simp only [List.append_assoc]
    rw [tableConstraint?, keywords?_of_spelled hk]
    simp only [ident_of_spelled hname, ok_bind, constraintBody_of_spelled h hr]
    rfl
  | unnamed h =>
    obtain ⟨hname, hstart⟩ := start_of_constraintBody h rest
    rw [tableConstraint?, hname]
    simp only [hstart, if_true, constraintBody_of_spelled h hr]
    rfl

/-! ## Elements of a table -/

theorem element_of_spelled {e : Element} (h : e.Spelled ts) (hr : AtSeparator rest) :
    element (ts ++ rest) = .ok (e, rest) := by
  cases h with
  | column h =>
    -- A name is never taken for the beginning of a constraint or of a synonym.
    have start : tableConstraint? (ts ++ rest) = .ok (none, ts ++ rest) ∧
        keywords? ["SYNONYM"] (ts ++ rest) = none := by
      obtain ⟨t, ts', rfl, ht⟩ := h.exists_head
      simp (disch := decide) [tableConstraint?, atKeywords, keywords?_of_ident ht]
    rw [element, start.1]
    simp only [start.2, columnDef_of_spelled h hr]
    rfl
  | constraint h => rw [element, tableConstraint?_of_spelled h hr]

/-- No element can be taken for the closing parenthesis. -/
theorem atPunct_of_element {e : Element} (h : e.Spelled ts) (rest : List Token) :
    atPunct ")" (ts ++ rest) = false := by
  cases h with
  | column h =>
    obtain ⟨t, ts', rfl, ht⟩ := h.exists_head
    exact atPunct_of_ident ht _ _
  | constraint h =>
    have other : ∀ {word words ks behind}, Keywords (word :: words) ks → word ≠ "" →
        atPunct ")" (ks ++ behind) = false := by
      intro word words ks behind hk given
      rw [atPunct, punct?_of_spelled hk given]
      rfl
    cases h with
    | named hk _ _ =>
      simp only [List.append_assoc]
      exact other hk (by decide)
    | unnamed h =>
      cases h with
      | foreignKey h =>
        cases h with
        | mk hk _ _ _ _ _ =>
          simp only [List.append_assoc]
          exact other hk (by decide)
      | check hk _ =>
        simp only [List.append_assoc]
        exact other hk (by decide)

theorem elements_last {e : Element} (start : atPunct ")" ts = false)
    (h : element ts = .ok (e, rest)) (hr : punct? "," rest = none) :
    elements ts = .ok ([e], rest) := by
  rw [elements_eq, start, if_neg (by decide), h, ok_bind]
  simp only [hr]

theorem elements_more {e : Element} {es : List Element} {ts1 ts2 : List Token}
    (start : atPunct ")" ts = false) (h : element ts = .ok (e, ts1))
    (hc : punct? "," ts1 = some ts2) (hs : elements ts2 = .ok (es, rest)) :
    elements ts = .ok (e :: es, rest) := by
  rw [elements_eq, start, if_neg (by decide), h, ok_bind]
  simp only [hc, hs]
  rfl

theorem elements_of_separated {es : List Element} (h : Separated "," Element.Spelled es ts)
    {q : Token} (hq : q.isPunct ")" = true) (rest : List Token) :
    elements (ts ++ q :: rest) = .ok (es, q :: rest) := by
  induction h with
  | last he =>
    exact elements_last (atPunct_of_element he _)
      (element_of_spelled he (atSeparator_cons (.inr hq) rest))
      (punct?_of_other hq (by decide) rest)
  | @more e es s ts ts' he hs _ ih =>
    rw [List.append_assoc, List.cons_append]
    exact elements_more (atPunct_of_element he _)
      (element_of_spelled he (atSeparator_cons (.inl hs) _)) (punct?_of_isPunct hs _) ih

/-- The elements of a table in their parentheses. -/
theorem elements_of_listed {es : List Element} (h : Listed Element.Spelled es ts) :
    ∃ p inner q, ts = p :: (inner ++ [q]) ∧ p.isPunct "(" = true ∧ q.isPunct ")" = true ∧
      ∀ rest, elements (inner ++ q :: rest) = .ok (es, q :: rest) := by
  refine h.exists_inside ?_ ?_
  · intro q rest hq
    rw [elements, if_pos (atPunct_of_isPunct hq rest)]
  · intro inner q rest hi hq
    exact elements_of_separated hi hq rest

/-! ## Clauses of a table -/

theorem keywords?_of_path {p : Path} (h : p.Spelled ts) (given : word ≠ "")
    (words : List String) (rest : List Token) : keywords? (word :: words) (ts ++ rest) = none := by
  obtain ⟨t, ts', rfl, ht⟩ := Separated.exists_head h fun _ _ hi => hi.exists_head
  exact keywords?_of_ident ht given words _

/-- No deletion rule can be taken for a point. -/
theorem noPoint_of_rule {rule : OnDelete} (h : rule.Spelled ts) (hr : AtSeparator rest) :
    punct? "." (ts ++ rest) = none := by
  cases h with
  | unspecified => exact hr.endsType.noPoint
  | cascade h => exact punct?_of_spelled h (by decide) _ _
  | noAction h => exact punct?_of_spelled h (by decide) _ _

theorem interleaving_of_spelled {i : Interleaving} (h : i.Spelled ts) (hr : AtSeparator rest) :
    interleaving (ts ++ rest) = .ok (i, rest) := by
  cases h with
  | mk hk hp htable hrule =>
    simp only [List.append_assoc]
    rw [interleaving, expectKeywords_of_spelled hk, ok_bind]
    simp only [accept_of_clause hp (keywords?_of_path htable (by decide) _ _),
      path_of_spelled htable (noPoint_of_rule hrule hr), ok_bind,
      onDelete_of_spelled hrule (hr.keywords?_eq (by decide) _)]
    rfl

theorem rowDeletionPolicy_of_spelled {p : PolicyDef} (h : p.Spelled ts) (rest : List Token) :
    rowDeletionPolicy (ts ++ rest) = .ok (p, rest) := by
  cases h with
  | mk hk h1 holder h2 hcolumn hcomma hinterval hdays hday h3 h4 =>
    have older : ∀ {word t ts}, t.isKeyword word = true →
        expectKeywords [word] (t :: ts) = .ok ts := fun ht =>
      expectKeywords_of_spelled (.cons ht .nil) _
    simp only [List.append_assoc, List.cons_append, List.nil_append]
    rw [rowDeletionPolicy, expectKeywords_of_spelled hk, ok_bind]
    simp only [expectPunct_of_isPunct h1, ok_bind, older holder, expectPunct_of_isPunct h2,
      ident_of_spelled hcolumn, expectPunct_of_isPunct hcomma, older hinterval,
      intValue_of_spelled hdays, older hday, expectPunct_of_isPunct h3, expectPunct_of_isPunct h4]
    rfl

theorem tableClauses_of_none {t : CreateTable} (h : punct? "," ts = none) :
    tableClauses t ts = .ok (t, ts) := by
  rw [tableClauses_eq, h]

theorem tableClauses_step {t t' : CreateTable} {ts1 ts2 : List Token}
    (hc : punct? "," ts = some ts1) (h : tableClause t ts1 = .ok (t', ts2)) :
    tableClauses t ts = tableClauses t' ts2 := by
  conv_lhs => rw [tableClauses_eq, hc]
  simp only [h, ok_bind]

theorem atSeparator_of_behind {α : Type} {spelled : α → List Token → Prop} {a : Option α}
    (h : Behind spelled a ts) (hr : AtSeparator rest) : AtSeparator (ts ++ rest) := by
  cases h with
  | absent => exact hr
  | given hc _ => exact atSeparator_cons (.inl hc) _

/-- A table gets its interleaving if one is spelled. -/
theorem tableClauses_of_interleaving {t : CreateTable} {i : Option Interleaving}
    (h : Behind Interleaving.Spelled i ts) (hr : AtSeparator rest) (ht : t.interleaving = none) :
    tableClauses t (ts ++ rest) = tableClauses { t with interleaving := i } rest := by
  cases h with
  | absent =>
    rw [← ht]
    rfl
  | @given i c ts hc h =>
    have start : atKeywords ["INTERLEAVE"] (ts ++ rest) = true := by
      cases h with
      | mk hk _ _ _ =>
        obtain ⟨ks, ks', hi, -, rfl⟩ := Keywords.exists_append ["INTERLEAVE"] ["IN"] hk
        simp only [List.append_assoc]
        exact atKeywords_of_spelled hi _
    have clause : tableClause t (ts ++ rest) = .ok ({ t with interleaving := some i }, rest) := by
      rw [tableClause, if_pos start, interleaving_of_spelled h hr]
      rfl
    exact tableClauses_step (punct?_of_isPunct hc _) clause

/-- A table gets its row deletion policy if one is spelled. -/
theorem tableClauses_of_policy {t : CreateTable} {p : Option PolicyDef}
    (h : Behind PolicyDef.Spelled p ts) (ht : t.policy = none) :
    tableClauses t ts = .ok ({ t with policy := p }, []) := by
  cases h with
  | absent =>
    rw [tableClauses_of_none rfl, ← ht]
  | @given p c ts hc h =>
    have start : atKeywords ["INTERLEAVE"] ts = false ∧
        atKeywords ["ROW", "DELETION", "POLICY"] ts = true := by
      cases h with
      | mk hk _ _ _ _ _ _ _ _ _ _ =>
        exact ⟨atKeywords_of_clash hk (by decide) _, atKeywords_of_spelled hk _⟩
    have clause : tableClause t ts = .ok ({ t with policy := some p }, []) := by
      have hp := read_all (rowDeletionPolicy_of_spelled h [])
      rw [tableClause, start.1, if_neg (by decide), if_pos start.2, hp]
      rfl
    rw [tableClauses_step (punct?_of_isPunct hc _) clause, tableClauses_of_none rfl]

theorem primaryKey_of_spelled {keys : List KeyPart} (h : KeySpelled keys ts)
    (hr : AtSeparator rest) : primaryKey (ts ++ rest) = .ok (keys, rest) := by
  cases h with
  | absent => rw [List.nil_append, primaryKey, hr.keywords?_eq (by decide)]
  | given hk h =>
    rw [List.append_assoc, primaryKey, keywords?_of_spelled hk]
    exact keyList_of_spelled h rest

/-! ## Whole tables -/

theorem column?_of_elements (cs : List ColumnDef) (ks : List TableConstraint) :
    (cs.map Element.column ++ ks.map Element.constraint).filterMap Element.column? = cs := by
  simp [List.filterMap_map, Function.comp_def, Element.column?]

theorem constraint?_of_elements (cs : List ColumnDef) (ks : List TableConstraint) :
    (cs.map Element.column ++ ks.map Element.constraint).filterMap Element.constraint? = ks := by
  simp [List.filterMap_map, Function.comp_def, Element.constraint?]

theorem createTable_of_spelled {t : CreateTable} (h : t.Spelled ts) :
    createTable ts = .ok (t, []) := by
  cases h with
  | @mk ks ifs name elements' key interleaving' policy hk hifs hname helements hkey hinterleaving
      hpolicy =>
    obtain ⟨p, inner, q, rfl, hp, hq, hinner⟩ := elements_of_listed helements
    have hend : AtSeparator policy := by
      simpa using atSeparator_of_behind hpolicy atSeparator_nil
    rw [createTable, expectKeywords_of_spelled hk, ok_bind]
    simp only [List.cons_append, List.append_assoc, List.nil_append,
      accept_of_clause hifs (keywords?_of_path hname (by decide) _ _),
      path_of_spelled hname (punct?_of_other hp (by decide) _), ok_bind, expectPunct_of_isPunct hp,
      hinner, expectPunct_of_isPunct hq,
      primaryKey_of_spelled hkey (atSeparator_of_behind hinterleaving hend), column?_of_elements,
      constraint?_of_elements]
    rw [tableClauses_of_interleaving hinterleaving hend rfl,
      tableClauses_of_policy hpolicy rfl]

end Grammar

end SpannerDdl
