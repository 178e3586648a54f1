import SpannerDdl.Proofs.Draft.Refusal
import SpannerDdl.Proofs.Schema.EmptyPlaces

/-! # The document of a draft

Whatever statements a draft is given, also some with gaps, and whichever of them are refused, its
document breaks no rule but the one on empty texts, and that only where a draft does not look: at
the names and types of columns, the names of index keys and the referenced tables of foreign keys.

* `Draft.Presentable`: what holds of a draft behind any statements, also behind interrupted ones.
* `Presentable.step`, `presentable_runGapped`: the step and the run.
* `validate_toJson_of_run`: the complaints about the document. -/

set_option autoImplicit false

namespace SpannerDdl.Draft

/-! ## Steps -/

/-- The schema so far is presentable, and a name that leads to a table is not empty. -/
structure Presentable (d : Draft) : Prop where
  schema : d.schema.Presentable
  placesNamed : ∀ p ∈ d.places, p.1 ≠ ""

theorem presentable_empty : Presentable {} where
  schema := ⟨by simp [Draft.schema], by simp [Draft.schema], by simp [Draft.schema],
    by simp [Draft.schema]⟩
  placesNamed := by simp

theorem Presentable.name_ne {d : Draft} (h : d.Presentable) {name : String} {place : Nat}
    (found : d.place? name = some place) : name ≠ "" := by
  obtain ⟨before, behind, hp, -⟩ := List.lookup_eq_some_iff.1 found
  refine h.placesNamed (name, place) ?_
  rw [hp]
  exact List.mem_append_right _ List.mem_cons_self

theorem Presentable.addConstraints {d : Draft} (h : d.Presentable) {owner : String}
    (named : owner ≠ "") (cs : List TableConstraint) : (d.addConstraints owner cs).Presentable where
  schema := {
    tables := by simpa [Draft.schema] using h.schema.tables
    ofTables := by
      intro k hk
      rcases mem_foreignKeys_addConstraints (show k ∈ (d.addConstraints _ _).foreignKeys from hk)
        with hk | ⟨c, _, hk⟩
      · exact h.schema.ofTables k hk
      · rw [hk.wellFormed.2]
        exact named
    indexes := by simpa [Draft.schema] using h.schema.indexes
    directed := by simpa [Draft.schema] using h.schema.directed }
  placesNamed := by simpa using h.placesNamed

theorem Presentable.addTable {d : Draft} (h : d.Presentable) {t : Table} (ht : t.WellFormed) :
    (d.addTable t).Presentable where
  schema := { h.schema with
    tables := by
      intro t' ht'
      rcases List.mem_append.1 ht' with ht' | ht'
      · exact h.schema.tables t' ht'
      · rw [List.mem_singleton.1 ht']
        exact ht }
  placesNamed := by
    intro p hp
    rcases List.mem_append.1 hp with hp | hp
    · exact h.placesNamed p hp
    · rw [List.mem_singleton.1 hp]
      exact ht.named

theorem Presentable.changeTable {d : Draft} (h : d.Presentable) {change : Alteration}
    {f : Table → Table} (effect : change.onTable? = some f) (place : Nat) :
    (d.changeTable place f).Presentable where
  schema := { h.schema with
    tables := by
      intro t ht
      rcases mem_tables_changeTable ht with ht | ⟨t', ht', rfl⟩
      · exact h.schema.tables t ht
      · exact Alteration.wellFormed_of_onTable? effect (h.schema.tables t' ht') }
  placesNamed := h.placesNamed

theorem Presentable.dropForeignKeys {d : Draft} (h : d.Presentable) (name : String) :
    (d.dropForeignKeys name).Presentable := by
  unfold Draft.dropForeignKeys
  split
  · exact h
  · exact {
      schema := { h.schema with
        ofTables := fun k hk => h.schema.ofTables k (List.mem_filter.1 hk).1 }
      placesNamed := h.placesNamed }

theorem Presentable.addIndex {d : Draft} (h : d.Presentable) {i : CreateIndex}
    (named : i.name.name ≠ "") (ofTable : i.table.name ≠ "") :
    { d with indexes := d.indexes ++ [indexOf i] : Draft }.Presentable where
  schema := { h.schema with
    indexes := by
      intro j hj
      rcases List.mem_append.1 hj with hj | hj
      · exact h.schema.indexes j hj
      · rw [List.mem_singleton.1 hj]
        exact wellFormed_indexOf named ofTable
    directed := by
      intro j hj k hk
      rcases List.mem_append.1 hj with hj | hj
      · exact h.schema.directed j hj k hk
      · rw [List.mem_singleton.1 hj] at hk
        obtain ⟨part, -, rfl⟩ := List.mem_map.1 hk
        exact part.directed_indexKey }
  placesNamed := h.placesNamed

theorem Presentable.step {d d' : Draft} {s : Statement} (hs : Step d s d') (h : d.Presentable) :
    d'.Presentable := by
  cases hs with
  | createTable named isNew converted =>
    exact (h.addConstraints named _).addTable (wellFormed_tableOf named _)
  | changeTable found effect => exact h.changeTable effect _
  | addConstraint found c => exact h.addConstraints (h.name_ne found) [c]
  | dropConstraint found c => exact h.dropForeignKeys c.name
  | ignore found ignored => exact h
  | createIndex named ofTable => exact h.addIndex named ofTable
  | other keyword text => exact h

theorem Presentable.gappedStep {d d' : Draft} {s : GappedStatement} {i? : Option Interruption}
    (hs : GappedStep d s d' i?) (h : d.Presentable) : d'.Presentable := by
  cases hs with
  | whole accepted => exact h.step accepted
  | refused e => exact h
  | stopped gap => exact h
  | cutOff named gap => exact h.addConstraints named _

/-! ## Runs -/

theorem presentable_runGapped (ss : List GappedStatement) : (runGapped {} ss).Presentable := by
  have all : ∀ d : Draft, d.Presentable → (d.runGapped ss).Presentable := by
    induction ss with
    | nil => exact fun d h => h
    | cons s ss ih => exact fun d h => ih _ (h.gappedStep (d.gappedStep_applyGapped s))
  exact all {} presentable_empty

/-- Behind any statements, with gaps or without, accepted or refused, the document of the draft is
valid just if every column has a name and a type, every index key has a name, and every foreign key
has a referenced table. All complaints about it are that one of these is empty. -/
theorem validate_toJson_of_run (ss : List GappedStatement) :
    (validate (runGapped {} ss).schema.toJson false = [] ↔
      (∀ t ∈ (runGapped {} ss).schema.tables, ∀ c ∈ t.columns, c.name ≠ "" ∧ c.type ≠ "") ∧
      (∀ i ∈ (runGapped {} ss).schema.indexes, ∀ k ∈ i.columns, k.name ≠ "") ∧
      ∀ k ∈ (runGapped {} ss).schema.foreignKeys, k.referencedTable ≠ "") ∧
    documentRule.issues (runGapped {} ss).schema.toJson =
      (runGapped {} ss).schema.emptyPlaces.map Issue.emptyAt := by
  have s1 := (presentable_runGapped ss).schema
  exact ⟨Schema.validate_toJson_of_presentable s1, Schema.issues_toJson_eq s1⟩

end SpannerDdl.Draft
