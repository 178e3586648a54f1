import SpannerDdl.Proofs.Draft.WellFormed
import SpannerDdl.Proofs.Schema.Validity
import SpannerDdl.Proofs.Statement.Complete

/-! # What complete statements build

Statements whose names are all given and not empty build a schema whose document is valid.

* `Draft.Exchangeable`: what this asks of a draft beyond being well-formed.
* `Exchangeable.step`, `History.exchangeable`: the step and the run. -/

set_option autoImplicit false

namespace SpannerDdl

/-- Names that are given are not empty. -/
def IsGiven (name : String) : Prop := name ≠ ""

/-! ## Texts that are not empty -/

theorem Ident.name_ne {i : Ident} (h : i.Complete IsGiven) : i.name ≠ "" := by
  cases i with
  | named name => exact h
  | missing => cases h

theorem Path.name_ne {p : Path} (h : p.Complete IsGiven) : p.name ≠ "" := by
  refine intercalate_ne ?_ ?_
  · rw [Ne, List.map_eq_nil_iff]
    exact h.nonempty
  · intro piece hp
    obtain ⟨i, hi, rfl⟩ := List.mem_map.1 hp
    exact Ident.name_ne (h.idents i hi)

theorem ColumnType.schemaText_ne {t : ColumnType} (h : t.Complete IsGiven) {p : String × Bool}
    (ht : t.schemaText = .ok p) : p.1 ≠ "" := by
  induction t generalizing p with
  | scalar name =>
    cases ht
    have named : ∀ name ∈ Grammar.scalarTypes, name ≠ "" := by decide
    exact named name h
  | sized name max size =>
    cases ht
    rw [Ne, String.append_eq_empty_iff]
    exact fun he => absurd he.2 (by decide)
  | array item length ih =>
    rw [schemaText] at ht
    cases hi : item.schemaText with
    | error fault =>
      rw [hi] at ht
      cases ht
    | ok q =>
      rw [hi] at ht
      cases ht
      show q.1 ≠ ""
      exact ih h.1 hi
  | named path =>
    cases ht
    exact Path.name_ne h
  | custom sql? => cases h
  | missing => cases h

/-! ## Parts -/

theorem ColumnDef.isValid_column {c : ColumnDef} (h : c.Complete IsGiven) {column : Column}
    (hc : c.column = .ok column) : column.IsValid := by
  unfold ColumnDef.column at hc
  cases ht : c.type.schemaText with
  | error fault =>
    rw [ht] at hc
    cases hc
  | ok p =>
    rw [ht] at hc
    cases hc
    exact ⟨Ident.name_ne h.name, ColumnType.schemaText_ne h.type ht⟩

theorem KeyPart.isValid_indexKey {k : KeyPart} (h : k.name.Complete IsGiven) :
    k.indexKey.IsValid :=
  ⟨Ident.name_ne h, k.directed_indexKey⟩

theorem Alteration.isValid_of_onTable? {change : Alteration} (hc : change.Complete IsGiven)
    {f : Table → Table} (effect : change.onTable? = some f) {t : Table}
    (h : ∀ c ∈ t.columns, c.IsValid) : ∀ c ∈ (f t).columns, c.IsValid := by
  cases change with
  | addColumn c ifNotExists =>
    obtain ⟨column, hcolumn, rfl⟩ := Option.map_eq_some_iff.1 effect
    intro c' hc'
    rcases List.mem_append.1 hc' with hc' | hc'
    · exact h c' hc'
    · rw [List.mem_singleton.1 hc']
      exact ColumnDef.isValid_column hc (toOption_eq_some_iff.1 hcolumn)
  | dropColumn name =>
    cases effect
    unfold Draft.dropColumn
    split
    · exact h
    · exact fun c' hc' => h c' (List.mem_filter.1 hc').1
  | setInterleaving parent onDelete => cases effect; exact h
  | addPolicy p => cases effect; exact h
  | replacePolicy p => cases effect; exact h
  | dropPolicy => cases effect; exact h
  | _ => cases effect

namespace Draft

theorem Records.referencedTable_ne {c : TableConstraint} (hc : c.Complete IsGiven)
    {owner : String} {k : ForeignKey} (h : Records c owner k) : k.referencedTable ≠ "" := by
  obtain ⟨d, k', hk', rfl⟩ := h
  obtain ⟨body, name⟩ := c
  cases body with
  | foreignKey key =>
    cases hk'
    have named := Path.name_ne (ForeignKeyDef.Complete.referencedTable hc.body)
    unfold recorded
    split
    · exact named
    · exact named
  | check expr => cases hk'
  | other => cases hk'

/-! ## Steps and runs -/

/-- Columns, index keys and foreign keys are such as a document can hold. -/
structure Exchangeable (d : Draft) : Prop where
  columns : ∀ t ∈ d.tables, ∀ c ∈ t.columns, c.IsValid
  referencedTables : ∀ k ∈ d.foreignKeys, k.referencedTable ≠ ""
  indexKeys : ∀ i ∈ d.indexes, ∀ k ∈ i.columns, k.IsValid

theorem exchangeable_empty : Exchangeable {} where
  columns := by simp
  referencedTables := by simp
  indexKeys := by simp

theorem Exchangeable.step {d d' : Draft} {s : Statement} (hs : Step d s d')
    (complete : s.Complete IsGiven) (h : d.Exchangeable) : d'.Exchangeable := by
  cases hs with
  | @createTable t columns named isNew converted =>
    refine ⟨?_, ?_, ?_⟩
    · intro t' ht'
      simp only [addTable, tables_addConstraints, List.mem_append, List.mem_singleton] at ht'
      rcases ht' with ht' | rfl
      · exact h.columns t' ht'
      · intro c hc
        obtain ⟨stated, hs, hc⟩ := exists_mem_of_mapM converted hc
        exact ColumnDef.isValid_column (CreateTable.Complete.columns complete stated hs) hc
    · intro k hk
      rcases mem_foreignKeys_addConstraints (show k ∈ (d.addConstraints _ _).foreignKeys from hk)
        with hk | ⟨c, hc, hk⟩
      · exact h.referencedTables k hk
      · exact hk.referencedTable_ne (CreateTable.Complete.constraints complete c hc)
    · simpa [addTable] using h.indexKeys
  | @changeTable name change place f found effect =>
    refine { h with columns := ?_ }
    intro t ht
    rcases mem_tables_changeTable ht with ht | ⟨t', ht', rfl⟩
    · exact h.columns t ht
    · exact Alteration.isValid_of_onTable? complete.2 effect (h.columns t' ht')
  | addConstraint found c =>
    refine ⟨?_, ?_, ?_⟩
    · rw [tables_addConstraint]
      exact h.columns
    · intro k hk
      rcases mem_foreignKeys_addConstraint hk with hk | hk
      · exact h.referencedTables k hk
      · exact hk.referencedTable_ne complete.2
    · rw [indexes_addConstraint]
      exact h.indexKeys
  | dropConstraint found c =>
    unfold dropForeignKeys
    split
    · exact h
    · exact { h with
        referencedTables := fun k hk => h.referencedTables k (List.mem_filter.1 hk).1 }
  | ignore found ignored => exact h
  | @createIndex i named ofTable =>
    refine { h with indexKeys := ?_ }
    intro j hj
    rw [List.mem_append, List.mem_singleton] at hj
    rcases hj with hj | rfl
    · exact h.indexKeys j hj
    · intro k hk
      obtain ⟨part, hpart, rfl⟩ := List.mem_map.1 hk
      exact KeyPart.isValid_indexKey (CreateIndex.Complete.keys complete part hpart)
  | other keyword text => exact h

theorem History.exchangeable {log : List Statement} {d : Draft} (h : History log d)
    (complete : ∀ s ∈ log, s.Complete IsGiven) : d.Exchangeable := by
  induction h with
  | empty => exact exchangeable_empty
  | @step log d d' s _ hs ih =>
    rw [List.forall_mem_append, List.forall_mem_singleton] at complete
    exact (ih complete.1).step hs complete.2

/-- The document of a schema built from complete statements is valid. -/
theorem History.isValid_schema {log : List Statement} {d : Draft} (h : History log d)
    (complete : ∀ s ∈ log, s.Complete IsGiven) : d.schema.IsValid := by
  have s1 := h.wellFormed
  have s2 := h.exchangeable complete
  refine ⟨?_, ?_, ?_⟩
  · intro t ht
    have s3 := s1.tables t ht
    exact {
      named := s3.named
      columns := s2.columns t ht
      keyNamed := fun name hn he => s3.keyNamed (he ▸ hn)
      policyNamed := s3.policyNamed }
  · intro k hk
    refine ⟨?_, s2.referencedTables k hk⟩
    obtain ⟨t, ht, he⟩ := List.mem_map.1 (s1.owners k hk)
    rw [← he]
    exact (s1.tables t ht).named
  · intro i hi
    have s3 := s1.indexes i hi
    exact ⟨s3.named, s3.ofTable, s2.indexKeys i hi⟩

end Draft

end SpannerDdl
