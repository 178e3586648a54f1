import SpannerDdl.Proofs.Schema.Document
import SpannerDdl.Schema.Nullability

/-! # What a document keeps of a schema

A document keeps all of a schema but that a column takes nulls.

* `StatedColumn.stated_recorded_iff`, `StatedTable.stated_recorded_iff`: what is recorded is all
  there is, part by part.
* `StatedSchema.ofJson_toJson_iff`: which schemas their documents give back. -/

set_option autoImplicit false

namespace SpannerDdl

/-! ## Columns -/

/-- Nothing in the column says that it takes nulls. -/
def StatedColumn.Unstated (c : StatedColumn) : Prop := c.isNullable ≠ some true

theorem StatedColumn.stated_recorded_iff {c : StatedColumn} :
    c.recorded.stated = c ↔ c.Unstated := by
  obtain ⟨name, type, isArray, isNullable, comment⟩ := c
  cases isNullable with
  | none => simp [recorded, Column.stated, Unstated]
  | some b =>
    cases b with
    | false => simp [recorded, Column.stated, Unstated]
    | true => simp [recorded, Column.stated, Unstated]

theorem Column.unstated_stated (c : Column) : c.stated.Unstated := by
  cases h : c.notNull with
  | false => simp [stated, StatedColumn.Unstated, h]
  | true => simp [stated, StatedColumn.Unstated, h]

/-! ## Tables and schemas -/

theorem map_eq_self_iff {α : Type} {f : α → α} {xs : List α} :
    xs.map f = xs ↔ ∀ x ∈ xs, f x = x := by
  simpa using List.map_inj_left (f := f) (g := id) (l := xs)

theorem StatedTable.stated_recorded_iff {t : StatedTable} :
    t.recorded.stated = t ↔ ∀ c ∈ t.columns, c.Unstated := by
  have columns : t.recorded.stated = t ↔
      (t.columns.map fun c => c.recorded.stated) = t.columns := by
    obtain ⟨name, columns, primaryKey, interleavedIn, comment, policy⟩ := t
    simp [recorded, Table.stated, Function.comp_def]
  rw [columns, map_eq_self_iff]
  simp only [StatedColumn.stated_recorded_iff]

/-- No column of the schema is said to take nulls. -/
def StatedSchema.Unstated (s : StatedSchema) : Prop :=
  ∀ t ∈ s.tables, ∀ c ∈ t.columns, c.Unstated

theorem StatedSchema.stated_recorded_iff {s : StatedSchema} :
    s.recorded.stated = s ↔ s.Unstated := by
  have tables : s.recorded.stated = s ↔ (s.tables.map fun t => t.recorded.stated) = s.tables := by
    obtain ⟨tables, foreignKeys, indexes⟩ := s
    simp [recorded, Schema.stated, Function.comp_def]
  rw [tables, map_eq_self_iff]
  simp only [StatedTable.stated_recorded_iff, Unstated]

theorem Schema.unstated_stated (s : Schema) : s.stated.Unstated := by
  intro t ht c hc
  obtain ⟨t, -, rfl⟩ := List.mem_map.1 ht
  obtain ⟨c, -, rfl⟩ := List.mem_map.1 hc
  exact c.unstated_stated

/-! ## Documents -/

namespace StatedSchema

/-- The document gives back what is recorded. -/
theorem ofJson_toJson_eq (s : StatedSchema) : ofJson s.toJson = .ok s.recorded.stated := by
  rw [ofJson, toJson, Schema.ofJson_toJson]
  rfl

theorem ofJson_toJson_of_unstated {s : StatedSchema} (h : s.Unstated) :
    ofJson s.toJson = .ok s := by
  rw [ofJson_toJson_eq, stated_recorded_iff.2 h]

/-- The document of a schema gives it back exactly if no column is said to take nulls, whatever its
texts and lists are. No column is in what statements build or in what is read from a document. -/
theorem ofJson_toJson_iff :
    (∀ s : StatedSchema, ofJson s.toJson = .ok s ↔
      ∀ t ∈ s.tables, ∀ c ∈ t.columns, c.isNullable ≠ some true) ∧
    (∀ d : Draft, ofJson d.snapshot.toJson = .ok d.snapshot) ∧
    ∀ (doc : Json) (s : StatedSchema), ofJson doc = .ok s → ofJson s.toJson = .ok s := by
  refine ⟨fun s => ?stated, fun d => ?built, fun doc s read => ?read⟩
  case stated =>
    rw [ofJson_toJson_eq, Except.ok.injEq]
    exact stated_recorded_iff
  case built => exact ofJson_toJson_of_unstated d.schema.unstated_stated
  case read =>
    obtain ⟨recorded, -, rfl⟩ := map_eq_ok_iff.1 read
    exact ofJson_toJson_of_unstated recorded.unstated_stated

end StatedSchema

end SpannerDdl
