import SpannerDdl.Proofs.Schema.Exchange

/-! # What comes of a DDL text

A DDL text gives a schema, unless it is malformed or one of its statements is refused because of a
name. A type is never the reason: a statement that is read from a text leaves nothing out, and every
type in it is of a kind that has a text.

* `BuildError.IsOfName`: refusals because of a name that is missing, taken or unknown.
* `Draft.isOfName_of_refused`, `Draft.consumeAll_of_complete`: the step and the run.
* `Schema.ofDdl_outcome`: the whole text. -/

set_option autoImplicit false

namespace SpannerDdl

/-- A refusal because of a name that is missing, taken or unknown. -/
inductive BuildError.IsOfName : BuildError → Prop where
  | unnamedTable : IsOfName .unnamedTable
  | unnamedIndex : IsOfName .unnamedIndex
  | indexWithoutTable (index : String) : IsOfName (.indexWithoutTable index)
  | duplicateTable (table : String) : IsOfName (.duplicateTable table)
  | unknownTable (table : String) : IsOfName (.unknownTable table)

variable {P : String → Prop}

/-! ## Complete types -/

theorem ColumnType.exists_schemaText {t : ColumnType} (h : t.Complete P) :
    ∃ p, t.schemaText = .ok p := by
  induction t with
  | scalar name => exact ⟨_, rfl⟩
  | sized name max size => exact ⟨_, rfl⟩
  | array item length ih =>
    obtain ⟨p, hp⟩ := ih h.1
    exact ⟨(p.1, true), by rw [schemaText, hp]; rfl⟩
  | named path => exact ⟨_, rfl⟩
  | custom sql? => cases h
  | missing => cases h

theorem ColumnDef.exists_column {c : ColumnDef} (h : c.Complete P) :
    ∃ column, c.column = .ok column := by
  obtain ⟨p, hp⟩ := ColumnType.exists_schemaText h.type
  exact ⟨_, by rw [column, hp]; rfl⟩

/-! ## Complete statements -/

namespace Draft

variable {d : Draft} {e : BuildError}

theorem isOfName_of_createTable {t : CreateTable} (complete : t.Complete P)
    (h : (d.createTable t).2 = some e) : e.IsOfName := by
  obtain ⟨columns, converted⟩ :=
    exists_mapM_eq_ok fun c hc => ColumnDef.exists_column (complete.columns c hc)
  have inTable : t.columns.mapM (·.columnIn t.name.name false) = .ok columns :=
    ColumnDef.mapM_columnIn_eq_ok_iff.2 converted
  simp only [createTable, inTable] at h
  split at h
  · cases h
    exact .unnamedTable
  · split at h
    · cases h
      exact .duplicateTable _
    · cases h

theorem isOfName_of_alterTable {name : Path} {change : Alteration} (complete : change.Complete P)
    (h : (d.alterTable name change).2 = some e) : e.IsOfName := by
  unfold alterTable at h
  split at h
  · rename_i place found
    cases change with
    | addColumn c ifNotExists =>
      obtain ⟨column, converted⟩ := ColumnDef.exists_column complete
      rw [alter, ColumnDef.columnIn_eq_ok_iff.2 converted] at h
      cases h
    | _ => cases h
  · cases h
    exact .unknownTable _

theorem isOfName_of_createIndex {i : CreateIndex} (h : (d.createIndex i).2 = some e) :
    e.IsOfName := by
  unfold createIndex at h
  split at h
  · cases h
    exact .unnamedIndex
  · split at h
    · cases h
      exact .indexWithoutTable _
    · cases h

/-- Whatever the draft, a complete statement is refused because of a name only. -/
theorem isOfName_of_refused {s : Statement} (complete : s.Complete P)
    (h : (d.apply s).2 = some e) : e.IsOfName := by
  cases s with
  | createTable t => exact isOfName_of_createTable complete h
  | alterTable name change => exact isOfName_of_alterTable complete.2 h
  | createIndex i => exact isOfName_of_createIndex h
  | other keyword text => cases h

/-- Complete statements make a draft or are refused because of a name. -/
theorem consumeAll_of_complete {ss : List Statement} (complete : ∀ s ∈ ss, s.Complete P)
    (d : Draft) :
    (∃ d', (d.consumeAll ss).result = .ok d') ∨
      ∃ e, (d.consumeAll ss).result = .error (.build e) ∧ e.IsOfName := by
  induction ss generalizing d with
  | nil => exact .inl ⟨d, rfl⟩
  | cons s ss ih =>
    rw [List.forall_mem_cons] at complete
    obtain ⟨d1, e?, applied⟩ : ∃ d1 e?, d.apply s = (d1, e?) := ⟨_, _, rfl⟩
    cases e? with
    | none =>
      have s1 : (d.consumeAll (s :: ss)).result = (d1.consumeAll ss).result := by
        simp [consumeAll, consume, applied, Traced.andThen]
      rw [s1]
      exact ih complete.2 d1
    | some e =>
      have s1 : (d.consumeAll (s :: ss)).result = .error (.build e) := by
        simp [consumeAll, consume, applied, Traced.andThen, Traced.fail]
      have s2 : (d.apply s).2 = some e := by rw [applied]
      exact .inr ⟨e, s1, isOfName_of_refused complete.1 s2⟩

end Draft

/-! ## Texts -/

/-- The name is the text of a word or a quoted identifier among the tokens. -/
def IsNameAmong (ts : List Token) (name : String) : Prop :=
  ∃ t ∈ ts, (t.kind = .word ∨ t.kind = .ident) ∧ t.text = name

theorem Grammar.texts_isNameAmong (ts : List Token) : Grammar.Texts (IsNameAmong ts) ts :=
  fun t ht hk => ⟨t, ht, hk, rfl⟩

theorem Statement.complete_of_parse {text source : String} {ss : List Statement}
    (h : parse text source = .ok ss) :
    ∃ ts, tokenize text source = .ok ts ∧ ∀ s ∈ ss, s.Complete (IsNameAmong ts) := by
  unfold parse at h
  split at h
  · cases h
  · rename_i ts ht
    exact ⟨ts, ht, complete_of_listOfTokens (Grammar.texts_isNameAmong ts) h⟩

namespace Schema

theorem result_ofDdl_of_parse {text source : String} {ss : List Statement}
    (h : Statement.parse text source = .ok ss) :
    (ofDdl text source).result = ((Draft.consumeAll {} ss).result).map Draft.schema := by
  cases consumed : (Draft.consumeAll {} ss).result with
  | ok d =>
    have s1 : (Draft.consumeText {} text source).result = .ok d := by
      simp [Draft.consumeText, h, Traced.andThen, Traced.note, consumed]
    rw [ofDdl, Traced.bind_of_ok _ s1]
    rfl
  | error e =>
    have s1 : (Draft.consumeText {} text source).result = .error e := by
      simp [Draft.consumeText, h, Traced.andThen, Traced.note, consumed]
    rw [ofDdl, Traced.bind_of_error _ s1]
    rfl

theorem result_ofDdl_of_malformed {text source : String} {e : SourceError}
    (h : Statement.parse text source = .error e) :
    (ofDdl text source).result = .error (.ddl e) := by
  have s1 : (Draft.consumeText {} text source).result = .error (.ddl e) := by
    simp [Draft.consumeText, h, Traced.fail]
  rw [ofDdl, Traced.bind_of_error _ s1]

/-- A DDL text gives a schema, or it is malformed, or one of its statements is refused because of a
name. Every statement that is read from a text is complete, and its names are in the text. -/
theorem ofDdl_outcome (text source : String) :
    ((∃ s, (ofDdl text source).result = .ok s) ∨
      (∃ e, Statement.parse text source = .error e ∧
        (ofDdl text source).result = .error (.ddl e)) ∨
      ∃ e, (ofDdl text source).result = .error (.build e) ∧ e.IsOfName) ∧
    ∀ ss, Statement.parse text source = .ok ss →
      ∃ ts, tokenize text source = .ok ts ∧ ∀ s ∈ ss, s.Complete (IsNameAmong ts) := by
  refine ⟨?outcome, fun ss parsed => Statement.complete_of_parse parsed⟩
  case outcome =>
    cases parsed : Statement.parse text source with
    | error e => exact .inr (.inl ⟨e, rfl, result_ofDdl_of_malformed parsed⟩)
    | ok ss =>
      obtain ⟨ts, -, complete⟩ := Statement.complete_of_parse parsed
      rw [result_ofDdl_of_parse parsed]
      rcases Draft.consumeAll_of_complete complete {} with ⟨d, hd⟩ | ⟨e, he, isOfName⟩
      · exact .inl ⟨d.schema, by rw [hd]; rfl⟩
      · exact .inr (.inr ⟨e, by rw [he]; rfl, isOfName⟩)

end Schema

end SpannerDdl
